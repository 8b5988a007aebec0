import CameraFeed.Text.Marks
import CameraFeed.Text.Unassigned

/-! # Unprintable — characters that a quoted text does not show as themselves

  They have no mark of their own on a page: controls, formats and fillers, white space other than
  the space, private and unassigned code points, and the marks that extend the character before
  them. -/

namespace CameraFeed.Text

/-- Controls, formats, fillers, and white space other than the space. -/
def invisible : CharSet := CharSet.read [
  "0-1F 7F-A0 AD 600-605 61C 6DD 70F 890-891 8E2 115F-1160 1680 180E 2000-200F 2028-202F",
  "205F-2064 2066-206F 3000 3164 FEFF FFA0 FFF9-FFFB 110BD 110CD 13430-1343F 1BCA0-1BCA3",
  "1D173-1D17A E0001 E0020-E007F"]

/-- The character is not shown as itself. -/
def isUnprintable (c : Char) : Bool :=
  invisible.contains c || isExtending c || isUnassigned c || isPrivate c

end CameraFeed.Text
