/-!
# How common bytes are

Ranks of the bytes of texts, from 27 for the rarest to 255 for the most common. Searching for a rare
byte stops seldom, searching for a common one nearly everywhere.
-/

namespace RuleIntake.Pattern

def byteRanks : Array Nat := #[
  55, 52, 51, 50, 49, 48, 47, 46, 45, 103, 242, 66, 67, 229, 44, 43,
  42, 41, 40, 39, 38, 37, 36, 35, 34, 33, 56, 32, 31, 30, 29, 28,
  255, 148, 164, 149, 136, 160, 155, 173, 221, 222, 134, 122, 232, 202, 215, 224,
  208, 220, 204, 187, 183, 179, 177, 168, 178, 200, 226, 195, 154, 184, 174, 126,
  180, 191, 157, 194, 170, 189, 162, 161, 150, 193, 142, 137, 171, 176, 185, 167,
  186, 112, 175, 192, 188, 156, 140, 143, 123, 133, 128, 147, 138, 146, 114, 223,
  151, 249, 216, 238, 236, 253, 227, 218, 230, 247, 135, 180, 241, 233, 246, 244,
  231, 139, 245, 243, 251, 235, 201, 196, 240, 214, 152, 182, 205, 181, 127, 27,
  212, 211, 210, 213, 228, 197, 169, 159, 131, 172, 105, 80, 98, 96, 97, 81,
  207, 145, 116, 115, 144, 130, 153, 121, 107, 132, 109, 110, 124, 111, 82, 108,
  118, 141, 113, 129, 119, 125, 165, 117, 92, 106, 83, 72, 99, 93, 65, 79,
  166, 237, 163, 199, 190, 225, 209, 203, 198, 217, 219, 206, 234, 248, 158, 239]

/-- The rank of a byte. Bytes from `0xC0` on begin the characters of whole scripts and count as
common. -/
def byteRank (b : UInt8) : Nat := byteRanks.getD b.toNat 255

/-- The ranks below which a byte is rare. -/
def rareRank : Nat := 200

/-- The ranks from which on a byte is too common to search for. -/
def commonRank : Nat := 250

end RuleIntake.Pattern
