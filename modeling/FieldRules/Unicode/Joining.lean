import FieldRules.Unicode.Ranges

/-!
# Joining

In cursive scripts a letter may join the letter before it or the one after it.  Marks are passed
over: the letters around them join as if they were next to each other.
-/

set_option autoImplicit false

namespace FieldRules.Unicode

/-- The packed ranges of the characters that join the letter after them. -/
def packedJoinsAfter : String :=
  "620 0 5 0 1 0 1 4 4 c 1 6 1 1 23 1 8 f 12 25 1 1 9 0 1 0 1 1 28 2 2 0 12 2 5 3 1 8 1 0 1 0 1 1
   1f a 3 e 2 3 1 0 2 2 2 5 4a 20 56 4 2 0 1 9 1 0 a 0 1 3 2 0 1d 0 2 4 1 0 10 9 5 1 2 5 1 e f3e 0
   18 58 e 21 1 0 8f95 32 624d 4 8 0 5 9 1 2 a 3 91 0 1 0 3 2 1 1 1 0 2 0 1c 1 151 21 1 0 19f 1 1
   1 68 2 1 10 c 2 1c 3 2 b 2e 0 1 1 4 0 2 1 1 1 1 0 2 0 5 1 d934 43"

/-- The packed ranges of the characters that join the letter before them. -/
def packedJoinsBefore : String :=
  "620 0 1 1d 1 9 23 1 1 2 1 5e 1 0 18 1 a 2 2 0 10 0 1 1d 1d 32 4a 20 55 18 7 0 1 3 1 3 5 12 3 0
   2 6 10 c 1 1a f3e 0 18 58 e 21 1 0 8f95 31 624e 5 1 0 1 1 3 8 1 9 2 0 6 4 90 11 17 5 152 22 19e
   2 1 1 68 14 c 3 1b 11 2e 0 1 4 1 7 1 3 4 1 d935 43"

/-- The packed ranges of the characters that are passed over. -/
def packedTransparent : String :=
  "ad 0 252 6f 113 6 107 2c 1 0 1 1 1 1 1 0 48 a 1 0 2e 14 10 0 65 6 2 5 2 1 1 3 21 0 1 0 1e 1a 5b
   a 3a 8 9 0 18 3 1 8 1 2 1 4 2b 2 3b 8 2a 17 1 1f 37 0 1 0 4 7 4 0 3 6 a 1 1d 0 3a 0 4 3 8 0 14
   1 1a 0 2 1 39 0 4 1 4 1 2 2 3 0 1e 1 3 0 b 1 39 0 4 4 1 1 4 0 14 1 16 5 1 0 3a 0 2 0 1 3 8 0 7
   1 b 1 1e 0 3d 0 c 0 32 0 3 0 37 0 1 2 5 2 1 3 7 1 b 1 1d 0 3a 0 2 0 6 0 5 1 14 1 1c 1 39 1 4 3
   8 0 14 1 1d 0 48 0 7 2 1 0 5a 0 2 6 c 7 62 0 2 8 b 6 49 1 1b 0 1 0 1 0 37 d 1 4 1 1 5 a 1 23 9
   0 66 3 1 5 1 1 2 1 19 1 4 2 10 3 d 0 2 1 6 0 f 0 2bf 2 3b2 2 1d 1 1e 1 1e 1 40 1 1 6 8 0 2 a 9
   0 2d 2 1 0 75 1 22 0 76 2 4 1 9 0 6 2 db 1 2 0 3a 0 1 6 1 0 1 0 2 7 6 9 2 0 30 2d 2 b 14 3 30 0
   1 4 1 0 5 0 28 8 c 1 20 3 2 1 1 2 38 0 1 1 3 0 1 2 3a 7 2 1 98 2 1 c 1 6 4 0 6 0 3 1 c6 3f 20b
   0 2 1 1a 4 31 4 5 5 60 20 bfe 2 8d 0 60 1f 22a 3 6b 1 75d4 3 1 9 20 1 50 1 110 0 3 0 4 0 19 1 5
   0 97 1 1a 11 d 0 26 7 19 a 2e 2 30 0 2 3 2 1 27 0 43 5 2 1 2 1 c 0 8 0 2f 0 33 0 1 2 2 1 5 1 1
   0 2a 1 8 0 ee 0 2 0 4 0 4f30 0 2e1 f 10 f cf 0 f9 2 201 0 e2 0 95 4 686 2 1 1 5 3 28 2 4 0 a5 1
   23d 3 41 4 13d 1 4d 5 46 a 31 3 7b 0 36 e 29 0 2 1 a 2 31 3 2 1 7 0 3d 2 24 4 1 7 3e 0 c 1 34 8
   a 3 2 0 5f 2 2 0 1 1 6 0 2 0 9d 0 3 7 15 1 39 1 3 0 25 6 3 4 46 5 d 0 1 0 1 0 e 1 55 7 2 2 1 0
   17 0 54 5 1 0 4 1 1 1 ee 3 6 1 1 1 1b 1 55 7 2 0 1 1 6a 0 1 0 2 5 1 0 65 0 1 0 2 3 1 4 103 8 1
   1 100 1 1 0 4 0 90 3 2 1 4 0 20 9 28 5 2 3 8 0 9 5 2 2 2e c 1 1 c6 0 1 2 1 0 c9 6 1 5 1 0 52 15
   2 6 1 1 1 1 7a 5 3 0 1 1 1 6 1 0 48 1 3 0 1 0 15b 1 b 1 34 4 5 0 1 0 17 0 14d5 10 6 e 2cc8 b 3
   2 9c0 4 3b 6 418 0 3f 3 51 0 4cb8 1 1 3 125c 2d 2 16 220 2 9 f 2 6 1e 3 94 2 7bb 36 4 31 8 0 e
   0 16 4 1 e 550 6 1 10 2 6 1 1 1 4 64 0 a0 6 177 0 3d 3 1fc 3 fe 1 f3 0 2 0 7 1 5 0 1da 6 6d 7
   c16b5 0 1e 5f 80 ef"

/-- The characters that join the letter after them. -/
def joinsAfter : Ranges :=
  Ranges.unpack packedJoinsAfter

/-- The characters that join the letter before them. -/
def joinsBefore : Ranges :=
  Ranges.unpack packedJoinsBefore

/-- The characters that are passed over. -/
def transparent : Ranges :=
  Ranges.unpack packedTransparent

end FieldRules.Unicode
