/-!
# Mapping of domain names

How the characters of domain names are mapped before use: most stay as they are, capitals and
compatibility forms become others, a few vanish, and what occurs in no table is not allowed. The
numbers are written in base 36, and each entry gives the distance of its first character from
that of the entry before.

The tables are those of Unicode 17, and `laterLines` goes beyond them. It lists characters that
Unicode 17 leaves unassigned: the gaps in blocks that are still being filled, from U+0B53 on, and
the block from U+3D000 to U+3FC3F, which is kept for a script to come. Newer tables than these
let such characters stay, U+0B53, U+208F and U+2E60 among them. Which others will be assigned is
not settled, so a gap is listed as a whole.
-/

namespace Perimeter.Idn

/-- Characters that stay: distance, number of characters that follow, and 0. -/
def validLines : List String := [
  "0 1s 0 2j 10 0 1y 6 0 8 0 0 2 1 0 3 0 0 2 1 0 6 1 0 5 0 0 4 0 0 o 0 0 8 w 0 y 0 0 2 0 0",
  "2 0 0 2 0 0 2 0 0 2 0 0 2 0 0 2 0 0 2 0 0 2 0 0 2 0 0 2 0 0 2 0 0 2 0 0 2 0 0 2 0 0 2 0 0",
  "2 0 0 2 0 0 2 0 0 2 0 0 2 0 0 2 0 0 2 0 0 2 0 0 4 0 0 2 1 0 3 0 0 2 0 0 2 0 0 4 0 0 2 0 0",
  "2 0 0 2 0 0 3 0 0 2 0 0 2 0 0 2 0 0 2 0 0 2 0 0 2 0 0 2 0 0 2 0 0 2 0 0 2 0 0 2 0 0 2 0 0",
  "2 0 0 2 0 0 2 0 0 2 0 0 2 0 0 2 0 0 2 0 0 2 0 0 2 0 0 2 0 0 3 0 0 2 0 0 2 0 0 2 0 0 3 0 0",
  "2 0 0 3 0 0 4 1 0 6 0 0 3 0 0 4 2 0 5 0 0 3 0 0 2 0 0 2 0 0 3 0 0 2 1 0 3 0 0 3 0 0 4 0 0",
  "2 0 0 3 2 0 4 6 0 h 0 0 2 0 0 2 0 0 2 0 0 2 0 0 2 0 0 2 0 0 2 1 0 3 0 0 2 0 0 2 0 0 2 0 0",
  "2 0 0 2 0 0 2 0 0 2 0 0 2 1 0 6 0 0 4 0 0 2 0 0 2 0 0 2 0 0 2 0 0 2 0 0 2 0 0 2 0 0 2 0 0",
  "2 0 0 2 0 0 2 0 0 2 0 0 2 0 0 2 0 0 2 0 0 2 0 0 2 0 0 2 0 0 2 0 0 2 0 0 2 0 0 2 0 0 2 0 0",
  "2 0 0 2 0 0 2 0 0 2 0 0 2 0 0 2 6 0 9 0 0 3 1 0 3 0 0 5 0 0 2 0 0 2 0 0 2 0 0 2 2o 0 2y u 0",
  "11 1 0 7 2i 0 2l 0 0 4 8 0 a v 0 x 0 0 2 0 0 2 0 0 2 0 0 4 2 0 l 0 0 s y 0 17 0 0 2 0 0",
  "2 0 0 2 0 0 2 0 0 2 0 0 2 0 0 2 0 0 2 0 0 2 0 0 2 0 0 2 0 0 2 0 0 4 0 0 3 0 0 2 0 0 3 1 0",
  "1h 1b 0 1d 0 0 2 0 0 2 0 0 2 0 0 2 0 0 2 0 0 2 0 0 2 0 0 2 0 0 2 0 0 2 0 0 2 0 0 2 0 0 2 0 0",
  "2 0 0 2 0 0 2 8 0 a 0 0 2 0 0 2 0 0 2 0 0 2 0 0 2 0 0 2 0 0 2 0 0 2 0 0 2 0 0 2 0 0 2 0 0",
  "2 0 0 2 0 0 2 0 0 2 0 0 2 0 0 2 0 0 2 0 0 2 0 0 2 0 0 2 0 0 2 0 0 2 0 0 2 0 0 2 0 0 2 0 0",
  "3 0 0 2 0 0 2 0 0 2 0 0 2 0 0 2 0 0 2 1 0 3 0 0 2 0 0 2 0 0 2 0 0 2 0 0 2 0 0 2 0 0 2 0 0",
  "2 0 0 2 0 0 2 0 0 2 0 0 2 0 0 2 0 0 2 0 0 2 0 0 2 0 0 2 0 0 2 0 0 2 0 0 2 0 0 2 0 0 2 0 0",
  "2 0 0 2 0 0 2 0 0 2 0 0 2 0 0 2 0 0 2 0 0 2 0 0 2 0 0 2 0 0 2 0 0 2 0 0 2 0 0 2 0 0 2 0 0",
  "2 0 0 2 0 0 2 0 0 2 0 0 2 0 0 2 0 0 2 0 0 2 0 0 2 0 0 2 0 0 16 19 0 1b 2 0 5 2 0 4 1i 0",
  "1r q 0 v 5 0 n l 0 n 2f 0 2k 2r 0 2t 1b 0 1e 1m 0 1p 2s 0 37 1m 0 1p 1c 0 1f e 0 g r 0 u 0 0",
  "2 a 0 g v 0 13 22 0 24 38 0 3h z 0 11 7 0 a 1 0 4 l 0 n 6 0 8 0 0 4 3 0 6 8 0 b 1 0 4 3 0",
  "c 0 0 9 3 0 6 o 0 r 2 0 4 5 0 a 1 0 4 l 0 n 6 0 8 0 0 3 0 0 3 1 0 4 0 0 2 4 0 9 1 0 4 2 0",
  "6 0 0 b 0 0 a g 0 r 2 0 4 8 0 a 2 0 4 l 0 n 6 0 8 1 0 3 4 0 7 9 0 b 2 0 4 2 0 5 0 0 g 3 0",
  "6 b 0 j 6 0 8 2 0 4 7 0 a 1 0 4 l 0 n 6 0 8 1 0 3 4 0 7 8 0 b 1 0 4 2 0 a 2 0 a 4 0 7 h 0",
  "s 1 0 3 5 0 9 2 0 4 3 0 7 1 0 3 0 0 2 1 0 5 1 0 5 2 0 6 b 0 g 4 0 8 2 0 4 3 0 6 0 0 7 0 0",
  "f k 0 q c 0 e 2 0 4 m 0 o f 0 i 8 0 a 2 0 4 3 0 b 1 0 3 2 0 4 1 0 4 3 0 6 9 0 h l 0 n 2 0",
  "4 m 0 o 9 0 b 4 0 7 8 0 a 2 0 4 3 0 b 1 0 7 2 0 4 3 0 6 9 0 b 2 0 f c 0 e 2 0 4 1e 0 1g 2 0",
  "4 5 0 a f 0 i p 0 r 2 0 4 h 0 l n 0 p 8 0 a 0 0 3 6 0 a 0 0 5 5 0 7 0 0 2 7 0 e 9 0 c 2 0",
  "f 1d 0 1f 6 0 b s 0 1u 1 0 3 0 0 2 4 0 6 n 0 p 0 0 2 b 0 d 9 0 c 4 0 6 0 0 2 6 0 8 9 0 e 1 0",
  "y b 0 d 1h 0 1j 3 0 5 3 0 5 3 0 5 3 0 5 3 0 5 b 0 d 2 0 7 1 0 3 0 0 6 6 0 8 g 0 i 3 0 5 3 0",
  "5 3 0 5 3 0 5 3 0 5 b 0 d 2 0 4 e 0 g c 0 1e 4f 0 5s 17 0 19 2p 0 2s 6f 0 6h 3 0 6 6 0 8 0 0",
  "2 3 0 6 14 0 16 3 0 6 w 0 y 3 0 6 6 0 8 0 0 2 3 0 6 e 0 g 1k 0 1m 3 0 6 1u 0 1x v 0 z p 0",
  "w 2d 0 2o hr 0 ht r 0 v 2g 0 2o l 0 v n 0 x j 0 w c 0 e 2 0 4 1 0 e 1f 0 1i 13 0 16 9 0",
  "g 9 0 g a 0 g 9 0 g 2g 0 2o 16 0 1c 1x 0 28 u 0 w b 0 g b 0 g 0 0 4 15 0 18 4 0 g 17 0",
  "1c p 0 w a 0 e 1p 0 1s 1s 0 1u s 0 v a 0 h 9 0 g d 0 g 19 0 1c b 0 w 24 0 26 4l 0 4u 1n 0",
  "1r e 0 i 1e 0 1p 0 0 1i 7 0 g 16 0 1c 17 0 1b 0 0 c 0 0 j 0 0 t c 0 e x 0 1z 1r 0 1t 0 0",
  "2 0 0 2 0 0 2 0 0 2 0 0 2 0 0 2 0 0 2 0 0 2 0 0 2 0 0 2 0 0 2 0 0 2 0 0 2 0 0 2 0 0 2 0 0",
  "2 0 0 2 0 0 2 0 0 2 0 0 2 0 0 2 0 0 2 0 0 2 0 0 2 0 0 2 0 0 2 0 0 2 0 0 2 0 0 2 0 0 2 0 0",
  "2 0 0 2 0 0 2 0 0 2 0 0 2 0 0 2 0 0 2 0 0 2 0 0 2 0 0 2 0 0 2 0 0 2 0 0 2 0 0 2 0 0 2 0 0",
  "2 0 0 2 0 0 2 0 0 2 0 0 2 0 0 2 0 0 2 0 0 2 0 0 2 0 0 2 0 0 2 0 0 2 0 0 2 0 0 2 0 0 2 0 0",
  "2 0 0 2 0 0 2 0 0 2 0 0 2 0 0 2 0 0 2 0 0 2 0 0 2 0 0 2 0 0 2 0 0 2 0 0 2 0 0 2 4 0 7 1 0",
  "3 0 0 2 0 0 2 0 0 2 0 0 2 0 0 2 0 0 2 0 0 2 0 0 2 0 0 2 0 0 2 0 0 2 0 0 2 0 0 2 0 0 2 0 0",
  "2 0 0 2 0 0 2 0 0 2 0 0 2 0 0 2 0 0 2 0 0 2 0 0 2 0 0 2 0 0 2 0 0 2 0 0 2 0 0 2 0 0 2 0 0",
  "2 0 0 2 0 0 2 0 0 2 0 0 2 0 0 2 0 0 2 0 0 2 0 0 2 0 0 2 0 0 2 0 0 2 0 0 2 0 0 2 0 0 2 0 0",
  "2 0 0 2 0 0 2 0 0 2 8 0 h 5 0 g 7 0 g 7 0 g 5 0 g 7 0 g 7 0 g 0 0 2 0 0 2 0 0 2 0 0 2 0 0",
  "2 0 0 2 0 0 1g 1 0 6 0 0 g 0 0 a 2 0 6 1 0 a 2 0 4 3 0 i 0 0 m 1 0 4 0 0 2 4 0 6 b 0 f 0 0",
  "9 2 0 5 0 0 3 3 0 5 0 0 2 7 0 b c 0 e 6 0 20 7 0 9 o 0 13 w 0 1g 0 0 4 0 0 c 0 0 3 1 0 7 1 0",
  "5 0 0 2 0 0 2 0 0 2 0 0 5 0 0 c 0 0 7 3 0 9 5 0 1i 2 0 4 4 0 6 1 0 6 4b 0 4e 0 0 3 6v 0",
  "6y 72 0 7p a 0 4r 10g 0 10i 2u 0 2y 2s 0 2u 46 0 49 3t 0 56 1b 0 1d 0 0 4 1 0 3 0 0 2 0 0",
  "2 0 0 5 0 0 2 1 0 3 5 0 b 0 0 2 0 0 2 0 0 2 0 0 2 0 0 2 0 0 2 0 0 2 0 0 2 0 0 2 0 0 2 0 0",
  "2 0 0 2 0 0 2 0 0 2 0 0 2 0 0 2 0 0 2 0 0 2 0 0 2 0 0 2 0 0 2 0 0 2 0 0 2 0 0 2 0 0 2 0 0",
  "2 0 0 2 0 0 2 0 0 2 0 0 2 0 0 2 0 0 2 0 0 2 0 0 2 0 0 2 0 0 2 0 0 2 0 0 2 0 0 2 0 0 2 0 0",
  "2 0 0 2 0 0 2 0 0 2 0 0 2 0 0 2 0 0 2 0 0 2 0 0 2 7 0 9 0 0 2 3 0 5 0 0 6 18 0 1a 0 0 6 0 0",
  "3 1j 0 1s 0 0 f n 0 x 6 0 8 6 0 8 6 0 8 6 0 8 6 0 8 6 0 8 6 0 8 6 0 8 3h 0 4g p 0 r 3 0",
  "5 2a 0 9t 0 0 2 1e 0 1g 0 0 4 4 0 6 2d 0 2g 1 0 4 1 0 3 2m 0 2t 16 0 3v 1 0 g 1x 0 28 f 0",
  "2g 7 0 1j 0 0 ap m8c 0 m8g 1i 0 1s 9n 0 a9 0 0 2 0 0 2 0 0 2 0 0 2 0 0 2 0 0 2 0 0 2 0 0",
  "2 0 0 2 0 0 2 0 0 2 0 0 2 0 0 2 0 0 2 0 0 2 0 0 2 0 0 2 0 0 2 0 0 2 0 0 2 0 0 2 0 0 2 i 0",
  "k 0 0 2 0 0 2 0 0 2 0 0 2 0 0 2 0 0 2 0 0 2 0 0 2 0 0 2 0 0 2 0 0 2 0 0 2 0 0 2 0 0 3 2h 0",
  "2q x 0 z 0 0 2 0 0 2 0 0 2 0 0 2 0 0 2 0 0 2 2 0 4 0 0 2 0 0 2 0 0 2 0 0 2 0 0 2 0 0 2 0 0",
  "2 0 0 2 0 0 2 0 0 2 0 0 2 0 0 2 0 0 2 0 0 2 0 0 2 0 0 2 0 0 2 0 0 2 0 0 2 0 0 2 0 0 2 0 0",
  "2 0 0 2 0 0 2 0 0 2 0 0 2 0 0 2 0 0 2 0 0 2 0 0 2 0 0 2 7 0 9 0 0 2 0 0 3 0 0 2 0 0 2 0 0",
  "2 0 0 2 3 0 5 0 0 2 1 0 3 0 0 2 2 0 4 0 0 2 0 0 2 0 0 2 0 0 2 0 0 2 0 0 2 0 0 2 0 0 2 0 0",
  "2 0 0 6 0 0 6 0 0 2 0 0 2 0 0 2 0 0 2 0 0 2 0 0 2 0 0 2 0 0 5 0 0 2 0 0 3 0 0 2 0 0 2 0 0",
  "2 0 0 2 0 0 2 0 0 2 0 0 2 0 0 r 1 0 4 1e 0 1i 9 0 g 1j 0 1s 1x 0 26 b 0 i 37 0 3j t 0 x 25 0",
  "27 a 0 f w 0 y 1i 0 1s d 0 g 9 0 c 2u 0 3j r 0 12 5 0 8 5 0 8 5 0 f 6 0 8 6 0 8 17 0 1c 8 0",
  "a 1 0 2e 19 0 1c 9 0 g 8mb 0 8mo m 0 r 1c 0 6rn 1 0 3 0 0 2 1 0 c 0 0 2 0 0 2 1 0 4 2 0",
  "6v 0 0 44 w 0 b0 h 0 2a 1 0 1k 7 0 1h 2 0 z f 0 11 1 0 1a 0 0 b1 b 0 d p 0 r i 0 k 1 0 3 e 0",
  "h d 0 1c 3e 0 3k 2 0 7 18 0 1c 2f 0 2h c 0 g 0 0 1c 19 0 4w s 0 w 1c 0 1s r 0 w z 0 19 t 0",
  "z 16 0 1c t 0 v 10 0 15 d 0 2o 39 0 3c 9 0 1k z 0 14 13 0 1c 1f 0 1r 0 0 14 a 0 c e 0 g 6 0",
  "8 1 0 5 1f 0 1s 8m 0 8w l 0 w 7 0 w 0 0 3k 5 0 8 0 0 2 17 0 19 1 0 5 0 0 3 m 0 o 1z 0 28 8 0",
  "1l i 0 k 1 0 7 w 0 10 q 0 w q 0 1t 1j 0 1o j 0 m 1d 0 1f 1 0 7 7 0 9 2 0 4 s 0 v 2 0 7 9 0",
  "h 8 0 g 1r 0 2o 12 0 17 b 0 l 1h 0 1l s 0 v q 0 w p 0 x 3 0 g 6 0 2f 20 0 5c 1e 0 1m 19 0",
  "1i 9 0 g f 0 15 s 0 11 1 0 5u u 0 w 15 0 17 2 0 5 1 0 i 5 0 e 8 0 16 19 0 1i 15 0 1s p 0",
  "1s r 0 1c m 0 w 25 0 2a z 0 19 1p 0 1r 4 0 i o 0 w 9 0 g 1g 0 1i h 0 q 12 0 1c 2n 0 2p j 0",
  "v h 0 j 1a 0 31 6 0 8 0 0 2 3 0 5 e 0 g a 0 h 1m 0 1s 9 0 g 3 0 5 7 0 a 1 0 4 l 0 n 6 0",
  "8 1 0 3 4 0 6 9 0 c 1 0 4 2 0 5 0 0 7 0 0 6 6 0 9 6 0 a 4 0 g 9 0 b 0 0 3 0 0 2 11 0 13 9 0",
  "b 0 0 3 0 0 2 3 0 5 9 0 b 1 0 a 1 0 v 2j 0 2l 4 0 z 1z 0 28 9 0 4w 1h 0 1k 11 0 20 1w 0",
  "28 9 0 g c 0 w 1l 0 1s 9 0 g j 0 1c q 0 t e 0 j m 0 5s 1n 0 5c 1e 0 1r 7 0 a 0 0 3 7 0 9 1 0",
  "3 t 0 v 1 0 4 b 0 l 9 0 28 7 0 a 19 0 1c a 0 12 1z 0 28 2a 0 2o 20 0 28 9 0 2o 7 0 2o x 0",
  "1c 9 0 g 8 0 a 18 0 1a d 0 o s 0 w v 0 y l 0 n d 0 2f 6 0 8 1 0 3 17 0 1b 0 0 2 1 0 3 8 0",
  "h 9 0 g 5 0 7 1 0 3 10 0 12 1 0 3 5 0 d 9 0 g 17 0 1c 9 0 74 o 0 w g 0 i 14 0 18 s 0 36 0 0",
  "g 1d 0 1r pm 0 sh 32 0 34 4 0 g 5f 0 26o 2q 0 34 tr 0 u8 l 0 w 32y 0 334 g6 0 5q8 1l 0",
  "1ds fs 0 g0 u 0 w 9 0 e 28 0 2a 9 0 g t 0 w 5 0 g 1x 0 28 9 0 b 6 0 8 k 0 q i 0 cj 1l 0",
  "80 1m 0 2j o 0 1x 22 0 27 1k 0 1s g 0 29 4 0 g 6 0 g 5p1 0 5q7 v 0 3l 36 0 6sw 3 0 5 6 0",
  "8 1 0 3 82 0 8i 0 0 u 2 0 5 0 0 f 3 0 c az 0 234 2y 0 34 c 0 g 8 0 g 9 0 c 3 0 31g 5x 0",
  "6y 2 0 6 c3 0 ca m 0 12 g 0 w 19 0 1c m 0 w 37 0 4w 6t 0 74 12 0 15 1g 0 1o d 0 m 1r 0",
  "1y 15 0 1r 1x 0 5c j 0 w j 0 w 2e 0 2o o 0 ww i3 0 ij 4 0 6 e 0 v3 u 0 11 5 0 63 6 0 8 g 0",
  "j 6 0 8 1 0 3 4 0 2x 0 0 35 18 0 1c d 0 g 9 0 e 1 0 8y u 0 1c 1l 0 1r 0 0 cx 15 0 74 16 0",
  "1b 0 0 5d u 0 w l 0 u 1 0 6a 6 0 8 3 0 5 1 0 3 e 0 g 5g 0 5j f 0 2j 15 0 1a 9 0 e 1 0",
  "lv 1v 0 40 1o 0 dr 1 0 7k 17 0 1c 2r 0 34 e 0 h e 0 g e 0 g 10 0 1m 4 0 10 0 0 x p 0 t y 0",
  "10 s 0 2d p 0 3e 5 0 4g rc 0 rg g 0 k c 0 g 61 0 68 b 0 g 0 0 g b 0 g 1j 0 1s 9 0 g 13 0",
  "1c t 0 w b 0 g 1 0 g 8 0 1c 9j 0 9s d 0 g c 0 g a 0 e 1k 0 1m 0 0 5 f 0 i b 0 g 9 0 h 42 0",
  "44 2j 0 2u 0 0 sm wyn 0 wzk 3dp 0 3ds 4gd 0 4gg 5rk 0 5s0 h9 0 3yo 3t6 0 3tc 6jt 0"]

/-- Characters beyond Unicode 17 that stay, in the same form. -/
def laterLines : List String := [
  "28j 1 0 32j 1 0 e j 0 bj 4 0 34 4 0 pg 0 0 e 2 0 11 d 0 1b e 0 4b 3 0 im l 0 x k 0 1ex 1 0",
  "kq x 0 nzz j 0 pb 3 0 i8f 4 0 1e5 7 0 h w 0 2ep 2d 0 212 8v 0 e9c 1b 0 66u 14 0 21 2o 0",
  "5w rw 0 cga 2 0 c7 5 0 t e 0 w e 0 nz 1r 0 1ps 73 0 tb 5 0 c 5w 0 3cx 3 0 2w b 0 r 1 0 h 0 0",
  "g 0 0 12 9 0 54 1j 0 2d c 0 1l 3 0 d 6 0 9 d 0 k 49 0 vn 2 0 k 2 0 g 2 0 65 5 0 i 3 0 5 e 0",
  "r 3 0 1o 7 0 i 5 0 1a 7 0 12 1 0 e 3 0 6 d 0 n 12 0 an 7 0 m 1 0 f 2 0 e 2 0 1o 0 0 2 3 0",
  "k 1 0 e 3 0 e 6 0 4a 0 0 2w 4 0 xr9 v 0 3em 1 0 4gg 1 0 5rn e 0 hp 1 0 7al 4 0 6jz 5 0",
  "upy 8qn 0"]

/-- Characters that vanish, in the same form. -/
def ignoredLines : List String := [
  "4t 0 0 iq 0 0 2s0 1 0 191 1 0 2f 4 0 1kw 0 0 2d 4 0 a 5 0 3cq 0 0 14f0 f 0 73 0 0 4h 0 0",
  "11c0 3 0 443 7 0 h47h 6n 0"]

/-- Characters that become one other: distance, number of characters that follow, and the way to
the other. A minus before the number says that only every other character is meant. -/
def shiftedLines : List String := [
  "1t p w 2n 0 -3k a 0 -21 8 1 -3k 3 0 lj 4 0 -3s 1 0 -23 6 m w o 6 w 14 -n 1 1g -1 1 5 -2 1",
  "8 -3 1 9 -m 1 1a 0 -3d 1 -2 1 6 0 -7g 2 0 5u 1 -1 1 4 0 5q 1 0 1 2 1 5p 2 0 1 3 0 27 1 0 5m",
  "1 0 5n 1 0 1 2 0 5p 1 0 5r 2 0 5v 1 0 5t 1 0 1 4 0 5v 1 0 5x 2 0 5y 1 -2 1 6 0 62 1 0 1",
  "2 0 62 3 0 1 2 0 62 1 0 1 2 1 61 2 -1 1 4 0 63 1 0 1 4 0 1 h -7 1 h -8 1 m 0 1 2 0 -2p",
  "1 0 -1k 1 -j 1 14 0 -3m 2 -8 1 o 0 8bv 1 0 1 2 0 -4j 1 0 8bs 3 0 1 2 0 -5f 1 0 1x 1 0 1z",
  "1 -4 1 2y -1 -g8 1 0 -23 2 0 -g1 1 0 -1n 1 0 -1m 1 0 -1h 1 0 -g0 1 0 -fz 14 0 -3h 1 0 -hh",
  "1 0 -hb 1 0 -h7 1 0 -27 2k 1 -1s 3 0 -1c 2 0 38 17 -1 1 4 0 -57 2 0 1 8 0 -n7 1 0 38 7 0 12",
  "1 0 -k0 1 2 11 4 0 1s 2 1 1r 3 g w i 8 w 18 0 8 1 0 -u 1 0 -p 1 0 -d 1 0 -6 1 0 -9 1 0 -f",
  "1 0 -m 2 -b 1 o 0 -1i 1 0 -1c 1 0 -1b 2 0 -1o 1 0 -1s 2 0 1 2 0 -1i 1 0 1 3 2 -3m 3 f 28",
  "g v w 28 -g 1 16 -q 1 1i 0 f 1 -6 1 f -1b 1 2p 11 1c 1y3 0 -1 b8 11 5ls 13 0 5ls 6 0 5ls",
  "1b 0 -w l8 5 -8 1oo 0 -4su 1 0 -4st 1 0 -4sk 1 1 -4si 2 0 -4sj 1 0 -4sc 1 0 -4ro 1 0 r7n",
  "1 0 1 7 16 -2bk 19 2 -2bk 33 0 -5or 1 0 -5l3 1 -1 -5os 3 -4 -5os 1 0 -5ed 2 -3 -5os 8 0 -5ot",
  "1 0 -5cq 1 0 -5ou 1 0 -5ot 1 1 -5os 2 0 -5or 1 0 -5pe 1 1 -5bo 2 0 -1w 1 0 -5ph 1 1 -5pg",
  "2 0 -5bl 1 1 -5bk 2 0 -5pi 2 0 -5pg 1 -1 -5pf 1 0 -5ja 2 0 -5bz 1 1 -1q 2 0 -5pi 1 1 -5pf",
  "2 0 -1o 1 0 -5bf 1 0 -5ph 1 0 -1j 1 2 -52j 3 1 -522 2 0 -5q1 1 0 -5pt 1 1 -5pr 2 1 -52s",
  "2 0 -52f 1 1 -52b f 0 -4zf z 0 -5e1 1 0 -5rt 1 0 -5e0 1 0 -5ny 1 0 -5dv 1 0 -5ru 1 0 -5du",
  "1 0 -5dt 1 0 -5dq 1 2 -5do 3 0 -18 1 0 -5cb 1 0 -5do 1 0 -11 1 0 -5cc 1 0 -5dn 1 0 -5dp",
  "1 3 -5do 4 0 -5dm 1 1 -5dd 2 0 -5je 1 1 -5d9 2 0 -4c 1 1 -5da 2 0 -5s1 1 2 -5d8 3 0 -553",
  "1t -22 1 4b 0 -1m 3 0 -5vj 2 -1b 1 2w 7 -8 g 5 -8 g 7 -8 g 7 -8 g 5 -8 h -3 -8 f 7 -8",
  "9 0 -5hh 2 0 -5hi 2 0 -5hj 2 0 -5hk 2 0 -5gt 2 0 -5gu 2 0 -5gv 1n 1 -8 2 0 -22 1 0 -5jj",
  "3 0 -5j9 a -1 -2e 1 0 -5jw 2 0 -5jx 8 0 -5kz 5 1 -8 2 0 -2s 1 0 -5kc 8 0 -5kj 5 1 -8 2 0 -34",
  "1 0 -5jy 1 0 -7 3 0 -68f 9 0 -3k 1 -1 -5kd 1 0 -3i 6 0 -6ao 1 0 -6ap 1 0 -6aq 1 0 -6ar",
  "1 0 -6as 1 0 -6at 1 0 -6au 1 0 -6av 1 0 -6aw 1 0 -6ax 1 0 -6ay 7 0 -1 u 0 -6bz 1c 0 -6db",
  "h 0 -6dc 1 0 -6bs 3 5 -6dc 6 0 -6dr 1 0 bb 1 0 -6db 1 1 -6dx 2 0 -6c1 1 9 -6ds a 0 -6e7",
  "1 0 av 1 0 -6dr 1 1 -6ed 3 0 -6cv 1 0 -6cs 1 0 -6cj 1 0 -6cb 1 0 -5yz 1 0 -6ct 1 3 -6cr",
  "4 0 -6cq 1 1 -6co 2v 0 -6fz 5 0 -624 3 1 -6g3 2 0 -6g4 1 0 -6g5 1 0 -6g6 1 0 -6aw 1 0 -6g7",
  "1 0 -6g8 1 0 -6g6 1 -1 -6g7 6 2 -6g9 3 0 -6ga 1 0 -6gb 7 0 -6ga 2 0 -5st 2 0 -6ge 2 0 -6gv",
  "1 0 -6di 1 1 -6h6 3 0 -6h6 1 1 -6h7 2 0 s 1 0 -6h2 1 0 -6h1 1 3 -5et 4 0 -6hc 3 0 -5to",
  "1 0 -5u2 1 0 -5u3 1 0 -5tr 1 0 5t 5 0 -6ht 1 1 -6hu 2 1 -6hr o 0 -6if 4 0 -6i6 5 0 -6i9",
  "3 0 -6io 1 1 -6iy 2 0 -6iq 1 0 -6iv 4 0 -6im 5 0 -6ip 3 0 -6j4 1 1 -6je 2 0 -6j6 4 0 1",
  "bq 1 2jj 8n 8 -75b 2e p -76d q p -773 q 0 -796 1ee 1b 1c 2o 0 1 2 0 -8af 1 0 -2xy 1 0 -89z",
  "3 -2 1 6 0 -8bg 1 0 -8al 1 0 -8bj 1 0 -8bi 2 0 1 3 0 1 7 0 -8pe 1 0 -8p3 1 1 -8cf 2 -1d 1",
  "2z -1 1 7 0 1 3h 0 -e 8g 0 c32 2c 0 m98 d 0 64g 1 0 65j 1 0 65w 1 0 664 1 0 66t 1 0 680",
  "1 0 686 1 0 68p 1 0 69e 1 0 6ra 1 0 6sb 1 0 6sg 1 0 6t2 1 0 6tl 1 0 6u5 1 0 6vl 1 0 6w5",
  "1 0 6wf 1 0 70p 1 0 73a 1 0 741 1 0 745 1 0 74y 1 0 756 1 0 75w 1 0 768 1 0 76w 1 0 78b",
  "1 0 78s 1 0 79i 1 0 7uh 1 0 7wg 1 0 897 1 0 89t 1 0 8a0 1 0 8aa 1 0 8ar 1 0 8cu 1 0 8q2",
  "1 0 8rd 1 0 8uo 1 0 8va 1 0 8vs 1 0 8wd 1 0 8xu 1 0 8xw 1 0 97x 1 0 986 1 0 98h 1 0 98t",
  "1 0 9c0 1 0 9c7 1 0 9cb 1 0 9fj 1 0 9fs 1 0 9g4 1 0 9gb 1 0 9hz 1 0 9if 1 0 9iw 1 0 9l3",
  "1 0 a17 1 0 a2g 1 0 a30 1 0 anj 1 0 ann 1 0 apx 1 0 aqc 1 0 aqo 1 0 ar8 1 0 asa 1 0 ase",
  "1 0 azs 1 0 b0f 1 0 b1a 1 0 bth 1 0 bva 1 0 bvw 1 0 bxh 1 0 by4 1 0 byc 1 0 byi 1 0 bzx",
  "1 0 c01 1 0 c0w 1 0 cuu 1 0 d78 1 0 d7j 1 0 d7n 1 0 d7q 1 0 d7x 1 0 d8e 1 0 d8f 1 0 dan",
  "1 0 dgm 1 0 dgq 1 0 dq4 1 0 dqd 1 0 drq 1 0 drw 1 0 ds4 1 0 dsb 1 0 dut 1 0 duz 1 0 e1a",
  "1 0 e1g 1 0 e2s 1 0 e38 1 0 e4i 1 0 eb2 1 0 eb8 1 0 ebo 1 0 ekq 1 0 eo7 1 0 eoc 1 0 etd",
  "1 0 evr 1 0 ex0 1 0 f7h 1 0 fb5 1 0 fr2 1 0 frs 1 0 ftc 1 0 fuq 1 0 fwl 1 0 fwv 1 0 fx0",
  "1 0 fxw 1 0 fzz 1 0 g08 1 0 g9t 1 0 g9z 1 0 ga7 1 0 gaf 1 0 gau 1 0 gb8 1 0 gbb 1 0 gdh",
  "1 0 gdk 1 0 gdp 1 0 h4x 1 0 h5q 1 0 hiq 1 0 hj1 1 0 hjn 1 0 hrh 1 0 hrt 1 0 htr 1 0 hv0",
  "1 0 iaq 1 0 ib4 1 0 ibi 1 0 icg 1 0 idg 1 0 iiy 1 0 ij9 1 0 il3 1 0 iry 1 0 iss 1 0 iyk",
  "1 0 iz4 1 0 iz8 1 0 j5b 1 0 jae 1 0 jdu 1 0 jdz 1 0 je3 1 0 k40 1 0 k48 1 0 k8j 1 0 kcs",
  "1 0 kcu 1 0 ke4 1 0 kh0 1 0 khc 1 0 khf 1 0 khl 1 0 kka 1 0 kl7 1 0 klc 1 0 klp 1 0 kqb",
  "1 0 krp 1 0 krs 1 0 kwu 1 0 kww 1 0 kxe 1 0 l4d 1 0 l5o 1 0 l5u 1 0 l7r 1 0 l80 1 0 l82",
  "1 0 l8b 1 0 l94 1 0 lk2 1 0 lv5 1 0 lve 1 0 lwf 1 0 lx0 1 0 lx7 1 0 lxg 1 0 lxj 1 0 lym",
  "1 0 lyp 1 0 lz5 1 0 lz9 1 0 lzl 1 0 m0b 1 0 m0p 1 0 m0w 1 0 m2i 1 0 m2w 1 0 m2z 17 0 -9gg",
  "2 0 -9g4 1g 0 -10 2 0 6x5 1 1 6x7 6w 1 -6cx 2 -1 -689 1 0 -6cy 2 0 -689 1 2 -6d0 3 5 -68a",
  "6 0 -6cm 1 2 -6d7 3 0 -6cj 1 9 -6d8 a k -6b2 m 1 -6dt 2 1 -68w 2 0 -68t 1 0 -68s 1 0 -68o",
  "1 0 -68l 1 0 -68k 1 0 -6du 1 0 -68i 1 0 -68h 1 1 -6dw 2 0 -6dv 1 1 -6du 2 0 -6dr 1 0 -6dq",
  "1 4 -6dp 5 0 -6dn 1 0 -6dk 1 0 -6db 1 0 -6d5 1 0 -6d1 1 1 -68h 2 2 -6ct 3 1 -6bn 2 0 -6bl",
  "1 1 -6bd 2 0 -6bc 1 0 -6b3 1 0 -6b1 4 0 5m6 1 0 5q1 1 0 5md 1 0 7d2 1 0 5mc 1 0 5na 1 0 5mb",
  "1 0 dcp 1 0 5of 1 0 5mm 1 0 5lx 1 0 7t8 1 0 7f6 1 0 5qz 4l 0 6x7 1 0 8qf 1 0 a4h 1 0 eh4",
  "p 0 -6lc 1 1 -6lb 2 2 -6la 3 0 -6l9 1 1 -6l8 2 4 -6l7 5 0 o0i 1 0 ox5 1 0 pdg 1 0 qa3",
  "1 0 qqe 1 0 r6p 1 0 s3c 1 0 szz 1 0 tga 1 0 ucx 1 0 ut8 1 0 v9j 1 0 vpu 1 0 w65 3 0 t9u",
  "2 0 5fk 1 0 5jf 1 0 5fr 1 0 76g 1 0 5jk 1 0 63s 1 0 5fh 1 0 63o 1 0 5hx 1 0 6go 1 0 ada",
  "1 0 c80 1 0 be0 1 0 ae3 1 0 itf 1 0 780 1 0 a51 1 0 al5 1 0 ad3 1 0 dyj 1 0 6m1 1 0 cmc",
  "1 0 hsb 1 0 dza 1 0 6cc 1 0 e2n 1 0 d5p 1 0 7o8 1 0 ij1 1 0 619 1 0 6he 1 0 bih 1 0 k11",
  "1 0 5m8 1 0 647 1 0 b7k 1 0 5eu 1 0 5fs 1 0 5et 1 0 8jj 1 0 6kr 1 0 6fm 1 0 831 1 0 81n",
  "1 0 dh3 1 0 5lg 1 0 hsp 1 0 6g5 1 0 7l8 w 0 -fi 1 0 -fh 1 0 -fg 1 0 -ff 1 1 -fe 2 0 -fd",
  "1 0 -fc 1 0 -fb 1 0 -fa 1 0 -f9 1 0 -f8 1 0 -f7 1 0 -f6 1 0 -f5 1 0 -f4 1 0 -f3 1 0 -f1",
  "1 0 -f0 1 0 -ez 1 5 -ey 6 0 -ew 1 0 -eu 1 0 -es 1 0 -eq 1 4 -eo 5 0 -en 1 0 -em 1 5 -el",
  "6 3 -ek mrp -m 1 1s -d 1 s 0 -w2a 1 0 -w29 3p -6 1 g -u 1 1q 0 -1 9 -1 1 4 0 -r9g 1 -4 1",
  "d 0 1 2 0 -wmg 3 -1 1 6 -9 1 k 0 -wn8 1 0 -wnj 1 0 -wnf 1 0 -wn5 1 0 -wn8 2 0 -wlu 1 0 -wmi",
  "1 0 -wlx 1 0 ps 1 -7 1 g 0 -1c 1 0 -wn7 1 0 -raw 1 -1 1 4 0 -wo7 1 -7 1 g 0 -wu9 l 0 -x32",
  "1 0 -x3j 1 0 -x3h 1 0 -x37 1 0 1 3 0 -wy9 1 0 -wx2 o3 0 -tx 1 0 -12 1 0 -xdf 1 0 -d a 0 -xcs",
  "7 27 -tzk fbk 0 -lh4 1 0 -sul 1 0 -kzc 1 0 -ldn 1 0 -rar 1 0 -xqr 1 0 -wm9 1 0 -hnv 1 0 -hnw",
  "1 0 -vjs 1 0 -ke1 1 0 -was 1 0 -vk4 1 0 -tuf 1 0 -pt1 1 0 -o0a 1 0 -moh 1 0 -mdz 1 0 -m56",
  "1 0 -kn8 1 0 -s9e 1 0 -rne 1 0 -qwt 1 0 -qbd 1 0 -n2z 1 0 -khb 1 0 -isp 1 0 -xp5 1 0 -wpz",
  "1 0 -s2h 1 0 -qo3 1 0 -mpe 1 0 -hz6 1 0 -us1 1 0 -r3r 1 0 -ms6 1 0 -m2o 1 0 -tp8 1 0 -nke",
  "1 0 -mbs 1 0 -uhq 1 0 -suq 1 0 -rls 1 0 -qi7 1 0 -km6 1 0 -xif 1 0 -x2v 1 0 -wup 1 0 -tbg",
  "1 0 -s4e 1 0 -qoy 1 0 -pqk 1 0 -nxv 1 0 -mr3 1 0 -moq 1 0 -l6w 1 0 -jd2 1 0 -iiy 1 0 -i0w",
  "1 0 -pf3 1 0 -p8d 1 0 -of1 1 0 -n79 1 0 -k6z 1 0 -hxd 1 0 -lt7 1 0 -voj 1 0 -ugv 1 0 -oo4",
  "1 0 -nuv 1 0 -qn8 1 0 -pdp 1 0 -lfq 1 0 -jf6 1 0 -voy 1 0 -uzt 1 0 -sah 1 0 -rjn 1 0 -rb3",
  "1 0 -oio 1 0 -obd 1 0 -jk6 1 0 -ww0 1 0 -nuw 1 0 -x2w 1 0 -x3d 1 0 -p4q 1 0 -oex 1 0 -n6v",
  "1 0 -jj8 1 0 -lp6 1 0 -tqk 1 0 -sbe 1 0 -lsv 1 0 -xt1 1 0 -v3s 1 0 -ua6 1 0 -qfu 1 0 -q2a",
  "1 0 -wuk 1 0 -pd5 1 0 -xie 1 0 -ud9 1 0 -xui 1 0 -rrw 1 0 -t81 1 0 -ojs 1 0 -wq0 1 0 -vta",
  "1 0 -prg 1 0 -n51 1 0 -lvp 1 0 -rzq 1 0 -kw1 1 0 -ru2 1 0 -tpx 1 0 -nf3 1 0 -tlh 1 0 -q35",
  "1 0 -xqh 1 0 -x73 1 0 -x4g 1 0 -smx 1 0 -olw 1 0 -nil 1 0 -luz 1 0 -khb 1 0 -wwa 1 0 -wn2",
  "1 0 -vm6 1 0 -uja 1 0 -t6m 1 0 -r5y 1 0 -pcr 1 0 -jq1 1 0 -isd 1 0 -hyp 1 0 -hx7 1 0 -wz3",
  "1 0 -szp 1 0 -s2d 1 0 -kyz 1 0 -umy 1 0 -u0v 1 0 -txs 1 0 -tfb 1 0 -rcf 1 0 -qx6 1 0 -qa3",
  "1 0 -p8r 1 0 -of6 1 0 -nxk 1 0 -l0y 1 0 -n1n 1 0 -ktz 1 0 -k7l 1 0 -x39 1 0 -wze 1 0 -wkh",
  "1 0 -r13 1 0 -mam 1 0 -lx3 1 0 -ul5 1 0 -ucu 1 0 -tnt 1 0 -s1j 1 0 -ors 1 0 -qia 1 0 -xqc",
  "1 0 -w4w 1 0 -v5v 1 0 -usx 1 0 -uc0 1 0 -qgr 1 0 -qbp 1 0 -o45 1 0 -nze 1 0 -kfx 1 0 -ji4",
  "1 0 -jfv 1 0 -ja4 1 0 -xm2 1 0 -pag 1 0 -kjn 1 0 -jk0 1 0 -u6w 1 0 -xtg 1 0 -xcx 1 0 -v66",
  "1 0 -v3y 1 0 -t9h 1 0 -se5 1 0 -quq 1 0 -pz3 1 0 -n2e 1 0 -ksn 1 0 -htj 1 0 -t31 1 0 -jo8",
  "1 0 -x1a 1 0 -swd 1 0 -st2 1 0 -rrd 1 0 -rhr 1 0 -qf7 1 0 -q5w 1 0 -pk3 1 0 -on3 1 0 -j8y",
  "1 0 -x9g 1 0 -tyc 1 0 -jmj 1 0 -xih 1 0 -uyk 1 0 -rn0 1 0 -l2l 1 0 -uh9 1 0 -u51 1 0 -ssj",
  "1 0 -qj8 1 0 -jme 1 0 -x4k 1 0 -wr3 1 0 -v3u 1 0 -t71 1 0 -syb 1 0 -soq 1 0 -rum 1 0 -qfy",
  "1 0 -q2r 1 0 -o6l 1 0 -mc8 1 0 -mbr 1 0 -kkd 1 0 -jk8 1 0 -wx8 1 0 -rhu 1 0 -wr4 1 0 -qvy",
  "1 0 -qc7 1 0 -mwm 1 0 -jm6 1 0 -ihn 1 0 -i1g 1 0 -swt 1 0 -roq 1 0 -npq 1 0 -p4c 1 0 -p20",
  "1 0 -orr 1 0 -qpm 1 0 -r4y 1 0 -lus 1 0 -xtp 1 0 -ngo 1 0 -x51 1 0 -x6h 1 0 -uor 1 0 -tv3",
  "1 0 -oq5 1 0 -vb3 1 0 -rtz 1 0 -t3m 1 0 -l3g 1 0 -mgs 1 0 -jp8 1 0 -m7z 1 0 -uns 1 0 -xcc",
  "1 0 -wgd 3 0 -vxy 2 0 -t5q 3 0 -x87 1 0 -qng 1 0 -pxp 1 0 -pgc 1 0 -pff 1 0 -pf9 1 0 -pe4",
  "1 0 -jie 1 0 -orj 1 0 -o69 2 0 -mxa 2 0 -lyi 3 0 -kx9 1 0 -krt 4 0 -j7f 1 0 -j73 1 0 -j5w",
  "1 0 -i9l 1 0 -ksw 1 0 -jnc 1 0 -xoi 1 0 -xfu 1 0 -xd1 1 0 -x2i 1 0 -x1s 1 0 -wys 1 0 -wih",
  "1 0 -wfl 1 0 -wcw 1 0 -vzt 1 0 -vwy 1 0 -v6f 1 0 -v66 1 0 -ucp 1 0 -u6u 1 0 -u5t 1 0 -u32",
  "1 0 -tf6 1 0 -tb4 1 0 -t6a 1 0 -ssf 1 0 -rta 1 0 -ros 1 0 -rhh 1 0 -r16 1 0 -qvy 1 0 -qi0",
  "1 0 -pmi 1 0 -phq 1 0 -phg 1 0 -phi 1 0 -phb 1 0 -ph6 1 0 -ph0 1 1 -pfp 2 0 -pas 1 0 -p90",
  "1 0 -p06 1 0 -okj 1 0 -ojz 1 0 -oig 1 0 -oa0 1 0 -o5y 1 0 -nsf 1 0 -nok 1 0 -nol 1 0 -nbc",
  "1 0 -mds 1 0 -ma3 1 0 -m01 1 0 -lyi 1 0 -ln5 1 0 -llp 1 0 -l2o 1 0 -kz3 1 0 -jnp 1 0 -jfu",
  "1 0 -je7 1 0 -ueu 1 0 1sw2 1 0 -nrp 3 0 -y16 1 0 -xbw 1 0 -xe2 1 0 -xrn 1 0 -xf3 1 0 -xdh",
  "1 0 -x4f 1 0 -x31 1 0 -wkb 1 0 -wmc 1 0 -wkh 1 0 -wih 1 0 -w0y 1 0 -vyi 1 0 -vui 1 0 -vu3",
  "1 0 -vmm 1 0 -vh5 1 0 -ur4 1 0 -uqy 1 0 -umz 1 0 -ul4 1 0 -ucu 1 0 -u9l 1 0 -ubk 1 0 -u7v",
  "1 0 -u96 1 0 -u55 1 0 -u3c 1 0 -ts9 1 0 -tpu 1 0 -tod 1 0 -th6 1 0 -t99 1 0 -t4r 1 0 -t4o",
  "1 0 -t32 1 0 -s9o 1 0 -s7w 1 0 -rx2 1 0 -rlp 1 0 -rm6 1 0 -rjs 1 0 -rct 1 0 -r3i 1 0 -pva",
  "1 0 -qy1 1 0 -quo 1 0 -qra 1 0 -qi8 1 0 -qe4 1 0 -qco 1 0 -q6f 1 0 -q6e 1 0 -q1o 1 0 -q18",
  "1 0 -q0k 1 0 -py7 1 0 -pyi 1 0 -pnj 1 0 -pa3 1 0 -p2l 1 0 -oxf 1 0 -or8 1 0 -on0 1 0 -odv",
  "1 0 -o8d 1 0 -nkx 1 0 -ngl 1 0 -mrg 1 0 -met 1 0 -mcx 1 0 -mci 1 0 -m4a 1 0 -m2q 1 0 -m40",
  "1 0 -m2j 1 0 -m2n 1 0 -m35 1 0 -m12 1 0 -lyu 1 0 -lo9 1 0 -l8q 1 0 -l01 1 0 -krv 1 0 -klr",
  "1 0 -jt6 1 0 -jqc 1 0 -jn6 1 0 -jji 1 0 -jij 1 0 -ji8 1 0 -jgx 1 0 -iwr 1 0 -i0i 1 0 1njv",
  "1 0 1njo 1 0 1ptw 1 0 -11rp 1 0 -10vv 1 0 -10uz 1 0 1vuc 1 0 1xx6 1 0 24n0 1 0 -i39 1 0 -i17",
  "1z 0 -1cfy 1 0 -1cgh 1 1 -1cgf 2 2 -1cg9 3 0 -1cfz 1 0 -1cfy 1 0 -1dku 13 0 -1cdb 1 0 -1cdc",
  "1 0 -1cd3 1 0 -1cd4 1 0 -1cd5 1 0 -1cd6 1 0 -1cd4 1 0 -1cd5 1 -1 -1cd6 1 -1 -1cd7 3 0 -1cd8",
  "1 0 -1cd9 1 0 -1cdg 1 0 -1cdh 1 0 -1cdi 1 0 -1cdj 1 0 -1cdf 1 0 -1cdg 1 0 -1cdh 1 0 -1cdi",
  "1 0 -1cdp 1 0 -1cdq 1 0 -1cdr 1 0 -1cds 1 0 -1ccm 1 0 -1ccn 1 -1 -1cco 1 -1 -1ccp 3 0 -1ccq",
  "1 0 -1ccr 1 0 -1cdq 1 0 -1cdr 1 0 -1cds 1 0 -1cdt 1 0 -1cdv 1 0 -1cdw 1 0 -1cdx 1 0 -1cdy",
  "1 0 -1cdw 1 0 -1cdx 1 0 -1cdy 1 1 -1cdz 2 0 -1ce0 1 0 -1ce1 1 0 -1ce2 1 0 -1cdx 1 0 -1cdy",
  "1 -1 -1ce0 1 -1 -1ce1 3 0 -1ce8 1 0 -1ce9 1 0 -1cdu 1 0 -1cdv 1 0 -1ce3 1 0 -1ce4 1 0 -1cdh",
  "1 0 -1cdi 1 0 -1cdj 1 0 -1cdk 1 0 -1cdf 1 0 -1cdg 1 0 -1cdh 1 0 -1cdi 1 0 -1cdf 1 0 -1cdg",
  "1 0 -1cdh 1 0 -1cdi 1 0 -1cdl 1 0 -1cdm 1 0 -1cdn 1 0 -1cdo 1 0 -1cdg 1 1 -1cdh 2 0 -1cdi",
  "1 0 -1cdj 1 0 -1cdk 1 0 -1cdg 1 1 -1cdh 2 0 -1cdi 1 0 -1cdj 1 0 -1cdk 1 0 -1cdo 1 0 -1cdp",
  "1 0 -1cdq 1 0 -1cdr 1 0 -1cd8 1 1 -1cd9 2 0 -1cda y 0 -1cfa 1 0 -1cfb 1 0 -1cfc 1 0 -1cfd",
  "1 0 -1ceo 1 0 -1cep 1 -1 -1cer 1 -1 -1ces 4 0 -1cer 1 0 -1ces 1 0 -1cez 1 0 -1cf0 1 0 -1cex",
  "1 0 -1cey 1 0 -1ces 1 0 -1cet 1 0 -1ceu 1 0 -1cev 1 0 -1cin 1 0 -1cio j 0 -1cfk 1 0 -1cfl",
  "1 0 -1cfm 1 0 -1cfn ep 0 -1e5g 1 0 -14pc 2 1 -1e55 2 0 -1e5w 1 0 -1e53 1 1 -14ox q 0 -17vh",
  "1 0 -17vj 1 0 -1e50 1 0 -1e51 1 1 -1e6l 2 0 -1e4c 1 0 -1e4b 1 1 -14px 2 1 -14q3 2 1 -14qb",
  "2 1 -14qf 2 3 -14qd 6 0 -1e5o 1 0 -1e5n 5 0 -1e5q 1 0 -1e5r 1 0 -1e5s 1 0 -1e78 1 0 -14r4",
  "3 0 -1e6x 1 0 -1e6z 1 0 -1e6v 1 0 -1e7q 1 0 -17wk 1 1 -1e7l 2 0 -1e5c 1 0 -1e5b 1 1 -14qx",
  "2 0 -1e7w 1 0 -1e7u 1 1 -1e7r 2 0 -1e7q 1 0 -1e7c 1 0 -1e7b 1 0 -1e7d 2 0 -1e6k 1 1 -1e85",
  "2 0 -1e7f l 1 -1d27 2 1 -1d28 2 1 -1d29 2 1 -1d2a 2 1 -1d2b 2 0 -1d2c 1 0 -1d2d 1 1 -1d2e",
  "2 1 -1d2f 2 0 -1d2g 1 0 -1d2h 1 1 -1d2i 2 1 -1d2j 2 0 -1d2k 1 0 -1d2l 1 1 -1d2m 2 0 -1d2n",
  "1 0 -1d2o 1 1 -1d2p 2 0 -1d2q 1 0 -1d2r 1 1 -1d2s 2 0 -1d2t 1 0 -1d2u 1 1 -1d2v 2 0 -1d2w",
  "1 0 -1d2x 1 1 -1d2y 2 1 -1d2z 2 1 -1d30 2 1 -1d31 2 1 -1d32 2 0 -1d33 1 0 -1d34 1 1 -1d35",
  "2 0 -1d36 1 0 -1d37 1 1 -1d38 2 0 -1d39 1 0 -1d3a 1 1 -1d3b 2 0 -1d3c 1 0 -1d3d 1 1 -1d3e",
  "2 0 -1d3f 1 0 -1d3g 1 1 -1d3h 2 0 -1d3i 1 0 -1d3j 1 1 -1d3k 2 0 -1d3l 1 0 -1d3m 1 1 -1d3n",
  "2 0 -1d3o 1 0 -1d3p 1 0 -1d3q 1 0 -1d3k 1 0 -1d3l 1 0 -1d3m 1 1 -1d3n 2 0 -1d3o 1 0 -1d3p",
  "1 1 -1d3q 2 0 -1d3r 1 0 -1d3s 1 1 -1d3t 2 0 -1d3u 1 0 -1d3v 1 1 -1d3w 2 0 -1d3x 1 0 -1d3y",
  "1 1 -1d3z 2 0 -1d40 1 0 -1d41 1 1 -1d42 2 0 -1d43 1 0 -1d44 1 1 -1d45 2 1 -1d46 2 1 -1d47",
  "2 0 -1d48 1 0 -1d49 1 0 -1d4a d v -1ecg w p -1ebk q z -1ecg 10 1 -168q 2 0 -1eer 1 1 -14ye",
  "2 0 -14yr 1 0 -14ru 1 0 -14s4 1 0 -14ue 1 0 -14ud 1 0 -14uc 1 0 -14ub 1 0 -14ua 1 0 -14sp",
  "1 0 -14so 1 0 -14sn 1 0 -14to 1 0 -14s4 1 0 -14un 1 0 -14um 1 0 -14ul 1 0 -14uk 1 1 -14uj",
  "2 0 -14ui 1 0 -14uh 1 0 -14ug 1 0 -14uf 1 0 -14ue 1 0 -14ud 1 0 -14uc 1 0 -14ub 1 0 -14ua",
  "1 0 -14u9 1 0 -14u8 1 0 -14u6 1 0 -14u5 1 0 -14u4 1 5 -14u3 6 0 -14u1 1 0 -14tz 1 0 -14tx",
  "1 0 -14tv 1 4 -14tt 5 0 -14ts 1 0 -14tr 1 5 -14tq 6 0 -14tp 1 0 -14tm 1 1 -14w5 3 1 -1b4x",
  "2 -1 -1b09 1 0 -1b4y 2 0 -1b09 1 2 -1b50 3 5 -1b0a 6 0 -1b4m 1 2 -1b57 3 0 -1b4j 1 9 -1b58",
  "d 5 -1b35 8 5 -1b37 8 5 -1b39 8 2 -1b3b 6 1 -1ef2 2 0 -1eeu 2 0 -1ef2 1 0 -1ef4 1 0 -183h",
  "2 0 -178m 1 3 -17x5 4 0 -174d 1 0 -1737 sy 13 14 4w z 14 5c -i 13 1 -4 13 c -6 13 g -2 13",
  "8 0 13 do 1 -1fht 2 0 -1fvh 1 0 -1fjf 1 0 -1fle 2 -1 -1fj8 1 0 -i76 2 0 -1fja 1 1 -1flh",
  "2 0 -1a7w 1 0 -1fli 1 0 -1fld 1 0 -1fjb 1 0 -1fl9 1 0 -1flc 1 0 -1flf 1 0 -1fjt 1 0 -1fu6",
  "1 0 -1fju 1 0 -1flc 1 0 -1fkk 1 1 -1fjj 2 0 -1flb 1 0 16js 1 0 -iz3 1 0 -1flc 1 0 16jq",
  "1 0 -1fki 1 0 16jp 1 0 -1fvu 1 1 -1fl9 2 0 -1fzo 1 0 -1fl8 1 0 16jl 1 1 -1fl7 2 0 -1fl6",
  "1 0 -1fk3 1 0 -1fk6 1 0 -i86 1 0 -1fk7 1 0 -1fl3 1 0 -17b3 2 0 -1fkz 1 1 -1fki 2 0 -1fkt",
  "1 2 -1fqu 3 0 16j5 1 0 16jo xy 1e 1s 5s l w 28g v w gww v w 2o o r ily p -2iyd q 9 -2j0g",
  "1e8 p -2kdb q p -2ke1 q p -2ker q -c -2kfh 1 -2 -2kfh 8 -8 -2kfh h p -2kg7 q p -2kgx",
  "q -1 -2khn 3 0 -2khn 3 0 -2khn 3 1 -2khn 4 3 -2khn 5 7 -2khn 8 3 -2kid 5 -a -2kid 3 -2 -2kid",
  "8 -4 -2kid a p -2kj3 q p -2kjt q 1 -2kkj 3 3 -2kkj 6 7 -2kkj 9 6 -2kkj 8 p -2kl9 q 1 -2klz",
  "3 3 -2klz 5 4 -2klz 6 0 -2klz 4 6 -2klz 8 p -2kmp q p -2knf q p -2ko5 q p -2kov q p -2kpl",
  "q p -2kqb q p -2kr1 q p -2krr q p -2ksh q p -2kt7 q p -2ktx q p -2kun q p -2kvd q 0 -2kqb",
  "1 0 -2kj2 3 g -2k8n h 0 -2k8x 1 6 -2k8n 7 0 -2e9m 1 g -2k9d h 0 -2k9c 1 6 -2k9d 7 0 -2eah",
  "1 0 -2k9z 1 0 -2k9x 1 0 -2k9w 1 0 -2k9l 1 0 -2k9r 1 0 -2k9t 1 g -2ka9 h 0 -2kaj 1 6 -2ka9",
  "7 0 -2eb8 1 g -2kaz h 0 -2kay 1 6 -2kaz 7 0 -2ec3 1 0 -2kbl 1 0 -2kbj 1 0 -2kbi 1 0 -2kb7",
  "1 0 -2kbd 1 0 -2kbf 1 g -2kbv h 0 -2kc5 1 6 -2kbv 7 0 -2ecu 1 g -2kcl h 0 -2kck 1 6 -2kcl",
  "7 0 -2edp 1 0 -2kd7 1 0 -2kd5 1 0 -2kd4 1 0 -2kct 1 0 -2kcz 1 0 -2kd1 1 g -2kdh h 0 -2kdr",
  "1 6 -2kdh 7 0 -2eeg 1 g -2ke7 h 0 -2ke6 1 6 -2ke7 7 0 -2efb 1 0 -2ket 1 0 -2ker 1 0 -2keq",
  "1 0 -2kef 1 0 -2kel 1 0 -2ken 1 g -2kf3 h 0 -2kfd 1 6 -2kf3 7 0 -2eg2 1 g -2kft h 0 -2kfs",
  "1 6 -2kft 7 0 -2egx 1 0 -2kgf 1 0 -2kgd 1 0 -2kgc 1 0 -2kg1 1 0 -2kg7 1 0 -2kg9 1 0 -2kfh",
  "1 0 -2kfi 3 9 -2l5q a 9 -2l60 a 9 -2l6a a 9 -2l6k a 9 -2l6u 1mi 8 -2m0w 9 2 -2m0v 3 a -2m0u",
  "b 0 -2m0s 1 1 -2m0r 2 0 -1pz5 1 0 -2lwy 1 0 -2m0m 1 0 -2m0l 1 0 -2lwl 1 0 -2ly8 1 0 -2lxd",
  "1 8 -2m1t 9 1 -2m1s 2 1 -2m1q 2 0 -2m1p 1 5 -2m1o 6 1 -2m1n 2 0 -2lzq 1 0 -2m1e 1 0 -2m1g",
  "1 0 -2m17 1 0 -2lz4 1 0 -1q1n 1 0 -2lz0 1oz x y zk 1 -2od5 2 0 -2od2 1 0 -2od0 2 0 -2ocd",
  "1 0 -2od0 1 0 -2od6 1 0 -2ocx 1 0 -2ocf 1 3 -2ocn 4 0 -2od7 1 0 -2od2 1 0 -2ocv 1 0 -2od8",
  "1 0 -2ocw 1 0 -2ode 1 0 -2odc 1 1 -2odn 2 0 -2odl 1 0 -2odk 1 0 -2odf 1 0 -2ode 1 0 -2odd",
  "1 0 -2oby 1 0 -2o9v 1 0 -2oal 1 0 -2oc0 2 0 -2oe1 1 0 -2ody 2 0 -2od9 3 0 -2oe2 2 0 -2odb",
  "1 3 -2odj 4 0 -2oe3 1 0 -2ody 1 0 -2odr 1 0 -2oe4 1 0 -2ods 2 0 -2oe8 1 1 -2oej 2 0 -2oeh",
  "2 0 -2oeb 2 0 -2oe9 7 0 -2oeu 5 0 -2oey 2 0 -2oe7 2 -1 -2oef 3 0 -2oez 1 0 -2oeu 2 0 -2of0",
  "1 0 -2oeo 2 0 -2of4 3 0 -2ofd 2 0 -2of7 2 0 -2of5 2 0 -2obn 2 0 -2ods 2 0 -2oft 1 0 -2ofq",
  "2 0 -2of1 3 0 -2ofu 1 0 -2ofl 1 0 -2of3 1 -1 -2ofb 3 0 -2ofb 1 0 -2ofv 1 0 -2ofq 1 0 -2ofj",
  "1 0 -2ofw 1 0 -2ofk 2 0 -2og0 1 1 -2ogb 2 0 -2og9 2 0 -2og3 1 0 -2og2 1 0 -2og1 1 0 -2oem",
  "2 0 -2od9 2 1 -2ogp 2 0 -2ogm 1 0 -2ogk 1 1 -2ofx 2 0 -2ogk 1 0 -2ogq 1 0 -2ogh 1 0 -2ofz",
  "2 2 -2og7 3 0 -2ogr 1 0 -2ogm 1 0 -2ogf 1 0 -2ogs 1 0 -2ogg 1 0 -2ogy 1 0 -2ogw 1 1 -2oh7",
  "2 0 -2oh5 1 0 -2oh4 1 0 -2ogz 1 0 -2ogy 1 0 -2ogx 6 0 -2ohl 1 0 -2ohi 1 0 -2ohg 2 0 -2ogt",
  "1 0 -2ohg 1 0 -2ohm 1 0 -2ohd 1 0 -2ogv 2 2 -2oh3 3 0 -2ohn 1 0 -2ohi 1 0 -2ohb 1 0 -2oho",
  "1 0 -2ohc 1 0 -2ohu 1 0 -2ohs 1 1 -2oi3 2 0 -2oi1 1 0 -2oi0 1 0 -2ohv 1 0 -2ohu 1 0 -2oht",
  "hc 0 -2q4o 1 0 -2q4a 4 p -2q4v 5u 0 -2gr1 e 0 -26yt 1 0 -28ca 1 0 -29ty 1 0 -2gr0 1 0 -2avc",
  "1 0 -28sb 1 0 -1z5f 1 0 -28ry 1 0 -2aus 1 0 -267t 1 0 -241l 1 0 -26bm 1 0 -2a4v 1 0 -27ip",
  "1 0 -2aa9 1 0 -26b3 1 0 -2a6b 1 0 -21nj 1 0 -239f 1 0 -1ym2 1 0 -28tw 1 0 -29rg 1 0 -24gi",
  "1 0 -26xe 1 0 -26s3 1 0 -2azt 1 0 -2azl 1 0 -1xwh 1 0 -27uu 1 0 -2ayo 1 0 -29tn 1 0 -26ug",
  "1 0 -1ygw 1 0 -26zi 1 0 -22ep 1 0 -227t 1 0 -29t8 1 0 -24l1 1 0 -2625 1 0 -2627 1 0 -239h",
  "1 0 -2a4n 1 0 -29hg 1 0 -1xpq l 0 -27jt 1 0 -29uq 1wf 9 -2sao 1dsg 0 -3qo3 1 0 -3qo9",
  "1 0 -3qo1 1 0 -1crl 1 0 -3qg4 1 0 -3qdz 1 0 -3qdn 1 0 -3qbp 1 0 -3q8e 1 0 -3q7k 1 0 -3q5f",
  "1 0 -3q64 1 0 -3vqm 1 0 -1brn 1 0 -3q2p 1 0 -3q2j 1 0 -3q24 1 0 -3q1m 1 0 -1bzq 1 0 -3vq2",
  "1 0 -3q25 1 0 -3q14 1 0 -1byj 1 0 -3q0w 1 0 -3q0k 1 0 -3qkt 1 0 -3q0e 1 0 -3q06 1 0 -k71",
  "1 0 -3pyg 1 0 -3py3 1 0 -3vpc 1 0 -3pwl 1 0 -3pwb 1 0 -3pv4 1 0 -3pv0 1 0 -3vnz 1 0 -3psu",
  "1 0 -3pst 1 0 -3ps3 1 0 -3pri 1 1 -3pr8 2 0 -3pqs 1 0 -3ppf 1 0 -3pp8 1 0 -3pp0 1 0 -3poc",
  "1 -1 -3po3 1 0 -3po2 2 0 -3po4 1 0 -1b0o 1 0 -3jyd 1 0 -3pm4 1 0 -3plk 1 0 -1as5 1 0 -3pla",
  "1 0 -3pl5 1 0 -3pkl 1 0 -3pge 1 0 -3pj9 1 0 -3piu 1 0 -3phz 1 0 -3pge 1 0 -3pe3 1 0 -3pde",
  "1 0 -3pbk 1 0 -3pb5 1 0 -3pa9 1 0 -3paa 1 0 -3p9q 1 0 -3p99 1 0 -3p92 1 0 -3p8o 1 0 -3oz9",
  "1 0 -3p6u 1 0 -3oza 1 0 -3p4t 1 0 -3p3v 1 0 -3pzd 1 0 -3omb 1 0 -3ouc 1 0 -3otb 1 0 -3osn",
  "1 0 -3owa 1 0 -3oro 1 0 -3orq 1 0 -3ooc 1 0 -18xh 1 0 -3omg 1 0 -3omc 1 0 -3oly 1 0 -3olf",
  "1 0 -3ol8 1 0 -3ojh 1 0 -18l4 1 0 -18jb 1 0 -3ofq 1 0 -3oeg 1 0 -3oe5 1 0 -3ogd 1 0 -3ocg",
  "1 0 -3vcp 1 0 -3vcc 1 0 -3o81 1 0 -3o6k 1 0 -3o6l 1 0 -17z8 1 0 -3o2y 1 0 -3o2e 1 0 -3o20",
  "1 0 -3o1p 1 0 -17q1 1 0 -3o1f 1 0 -3o19 1 0 -3ndt 1 0 -3o0j 1 0 -3v91 1 0 -3nyv 1 0 -3nyi",
  "1 0 -3nw9 1 0 -3nxp 1 -1 -176f 1 0 -3nsp 2 0 -3nrk 1 0 -3nro 1 0 -3nr8 1 1 -3nog 2 0 -3v4k",
  "1 0 -3nnr 1 0 -3nml 1 0 -3nm1 1 0 -3nku 1 0 -3v3a 1 0 -16h2 1 0 -3v2m 1 0 -3niz 1 0 -3nix",
  "1 0 -3niv 1 0 -3nic 1 0 -gsd 1 0 -3ngy 1 0 -165c 1 0 -165d 1 0 -3gk2 1 0 -3ng2 1 0 -3ng3",
  "1 0 -3v0v 1 0 -1333 1 0 -try 1 0 -3nef 1 0 -3ne7 1 0 -3v08 1 0 -3ncy 1 0 -3nbk 1 0 -3nbb",
  "1 0 -3nae 1 0 -3n6n 1 0 -3uxz 1 0 -3uyu 1 0 -3n67 1 0 -15g0 1 0 -3n4u 1 0 -3n1a 1 0 -3n17",
  "1 0 -3n16 1 0 -3n19 1 0 -3n00 1 0 -3mzh 1 0 -3myi 1 0 -3myx 1 0 -3myn 1 0 -3mxd 1 0 -3mwu",
  "1 0 -3mwr 1 0 -3mw2 1 0 -3mvs 1 0 -3mtz 1 0 -3mro 1 0 -3mqq 1 0 -3mnb 1 0 -14mk 1 0 -3mnw",
  "1 0 -3mpq 1 0 -3mmr 1 0 -3mm1 1 0 -3mjd 1 0 -14gd 1 0 -3mhp 1 0 -3mkb 1 0 -3ml4 1 0 -3us4",
  "1 0 -3mfu 1 0 -3mfa 1 0 -3meg 1 0 -3mfj 1 0 -3uqj 1 0 -3m9l 1 0 -3m8t 1 0 -13nk 1 0 -3m5k",
  "1 0 -3lxw 1 0 -3m2s 1 0 -3ulx 1 0 -3m0u 1 0 -3umg 1 0 -3unh 1 0 -3q68 1 0 -3q66 1 0 -3lxw",
  "1 0 -3m0p 1 0 -3gvd 1 0 -3svy 1 0 -3lxd 1 0 -3lxa 1 0 -3lx5 1 0 -3lvh 1 0 -3lvt 1 0 -12xm",
  "1 0 -3ul1 1 0 -3lr9 1 0 -3luj 1 0 -3lov 1 0 -3lnh 1 0 -12t2 1 0 -3lna 1 0 -3lqe 1 0 -3ljm",
  "1 0 -3uiy 1 0 -3lie 1 0 -3lfq 1 0 -3lds 1 0 -3l8j 1 0 -12dl 1 0 -3l76 1 0 -3ufq 1 0 -3l5a",
  "1 0 -11zd 1 0 -3l3x 1 0 -3uec 1 0 -3l35 1 0 -3l1x 1 1 -3l17 2 0 -11m2 1 0 -17fx 1 0 -11j3",
  "1 0 -3kx8 1 0 -116n 1 0 -3ku5 1 0 -3kts 1 0 -3kwn 1 0 -3krt 1 0 -3kqq 1 0 -3kp6 1 0 -3kqp",
  "1 0 -3kpm 1 0 -3kp8 1 0 -3kow 1 0 -1148 1 0 -3kr7 1 0 -3kk9 1 0 -3kij 1 0 -3u8n 1 0 -3kg0",
  "1 0 -3kg5 1 0 -10sc 1 0 -3klx 1 0 -3kbl 1 0 -10oi 1 0 -10n7 1 0 -3k98 1 0 -3k62 1 0 -3k6u",
  "1 0 -3k6y 1 0 -3u68 1 0 -3k5p 1 0 -3k4b 1 0 -3k4i 1 0 -3k31 1 0 -1c6u 1 0 -3jyv 1 0 -103e",
  "1 0 -3jwi 1 0 -zuc 1 0 -3jso 1 0 -3jsc 1 0 -3jrm 1 0 -zdn 1 0 -3jqc 1 0 -3jps 1 0 -z5d",
  "1 0 -yz7 1 0 -3jji 1 0 -3jj2 1 0 -3tz2 1 0 -3jie 1 0 -3tys 1 0 -3tyt 1 0 -3jdz 1 0 -3jdf",
  "1 0 -3jcv 1 0 -3jcc 1 0 -3jag 1 0 -3tw8 1 0 -3j80 1 0 -y67 1 0 -3j7c 1 0 -y3p 1 0 -3j60",
  "1 0 -16l6 1 0 -3j1m 1 0 -xi2 1 0 -xhg 1 0 -xdl 1 0 -3tqa 1 0 -3tpz 1 0 -3ivg 1 0 -x8u",
  "1 0 -x8w 1 0 -x7u 1 0 -x75 1 1 -3iuf 2 0 -3iug 1 0 -3ita 1 0 -3tow 1 0 -3irj 1 0 -3tol",
  "1 0 -3tme 1 0 -wmo 1 0 -3im8 1 0 -3ikj 1 0 -3iis 1 0 -3tke 1 0 -w8c 1 0 -3if1 1 0 -w56",
  "1 0 -w40 1 0 -3idj 1 0 -3ib0 1 0 -3tih 1 0 -3i8p 1 0 -3i8g 1 0 -3i8c 1 0 -vkw 1 0 -vcm",
  "1 0 -vcn 1 0 -3i41 1 0 -3tcu 1 0 -v5i 1 0 -3hy4 1 0 -3hy2 1 0 -3tbx 1 0 -uzp 1 0 -3hqs",
  "1 0 -3t8n 1 0 -3hq8 1 0 -3hqe 1 0 -3hpm 1 0 -ued 1 0 -3hmx 1 0 -3t64 1 0 -3hk7 1 0 -3hil",
  "1 0 -3hgr 1 0 -3t4t 1 0 -tvu 1 0 -tv0 1 0 -3t3v 1 0 -tr0 1 0 -3h8c 1 0 -to9 1 0 -3h7n",
  "1 0 -3h4v 1 0 -3h4l 1 0 -tcx 1 0 -tax 1 0 -3h25 1 0 -t7a 1 0 -3h1r 1 0 -134x 1 0 -3t0s",
  "1 0 -3h00 1 0 -3gxs 1 0 -3szd 1 0 -3gw7 1 0 -3oi9 1 0 -stc 1 0 -ssz 1 0 -133q 1 0 -133i",
  "1 0 -3gqy 1 0 -3gqw 1 0 -3e27 1 0 -3swz 1 0 -3gn2 1 0 -3gn9 1 0 -3gms 1 0 -3q3j 1 0 -3gma",
  "1 0 -3gm9 1 0 -3gm0 1 0 -3gkw 1 0 -s4b 1 0 -3gkz 1 0 -3gjg 1 0 -3ghj 1 0 -3gfi 1 0 -3gjd",
  "1 0 -3gf4 1 0 -3gdz 1 0 -3gaw 1 0 -3gi5 1 0 -3gev 1 0 -3geu 1 0 -3gef 1 0 -rxq 1 0 -rp6",
  "1 0 -rtd 1 0 -3ssc 1 0 -3g6v 1 0 -3g6u 1 0 -3g5w 1 0 -qg1 1 0 -3g3s 1 0 -rcx 1 0 -3sr5",
  "1 0 -3sr2 1 0 -r9b 1 0 -r1b 1 0 -3sqv 1 0 -3fxf 1 0 -3fx4 1 0 -3fwu 1 0 -3fwt 1 0 -3fv2",
  "1 0 -3fw0 1 0 -3fsb 1 0 -3ftk 1 0 -3fpe 1 0 -3fro 1 0 -3fpu 1 0 -3fp4 1 0 -3so8 1 0 -3fmn",
  "1 0 -3fls 1 0 -3snd 1 0 -3fj7 1 0 -3fj5 1 0 -py6 1 0 -3ffz 1 0 -3fft 1 0 -3slv 1 0 -3ff3",
  "1 0 -3w27 1 0 -pi5 1 0 -pd2 1 0 -3si7 1 0 -3shz 1 0 -3f3j 1 0 -3f1f 1 0 -3ex3 1 0 -3erh",
  "1 0 -oq3 1 0 -3ep5 1 0 -3eok 1 0 -3em3 1 0 -3ejk 1 0 -o89 1 0 -1brp 1 0 -3ehb 1 0 -3ehr",
  "1 0 -3egc 1 0 -1blr 1 0 -3ea2 1 0 -3e7b 1 0 -mxa 1 0 -mwk 1 0 -3dxq 1 0 -3dv6 1 0 -3dub",
  "1 0 -mnr 1 0 -3du3 1 0 -3dm7 1 1 -3dht 2 0 -3dke 1 0 -3d9u 1 0 -3d93 1 0 -lpv 1 0 -3cyr",
  "1 0 -3ryy 1 0 -3cxl 1 0 -lfe 1 0 -3rws 1 0 -3cq8 1 0 -3o02 1 0 -3cnm 1 0 -koh 1 0 -kil",
  "1 0 -3rt6 1 0 -3rsz 1 0 -3cii 1 0 -k4x 1 0 -3rre 1 0 -k13 1 0 -3chf 1 0 -3chg 1 0 -3cgn",
  "1 0 -jt7 1 0 -3cbk 1 0 -3ro0 1 0 -3c9n 1 0 -3c66 1 0 -3c5g 1 0 -3c3t 1 0 -3rju 1 0 -iqh",
  "1 0 -3bw8 1 0 -3bnv 1 0 -3bin 1 0 -3rcv 1 0 -3rc1 1 0 -3bfs 1 0 -hmq 1 0 -3rbt 1 0 -hl9",
  "1 0 -hdx 1 0 -hab 1 0 -3b6i 1 0 -3r9c 1 0 -3b4u 1 0 -3b4q 1 0 -3b4k 1 0 -3b4b 1 0 -3b45",
  "1 0 -3b35 1 0 -gm5"]

/-- Characters that become several: distance and what they become. Commas stand between entries. -/
def expandedLines : List String := [
  "4o w lk,7 w lg,5 w ld,4 w mf,4 1d 6dg 1g,1 1d 6dg 1e,1 1f 6dg 1g,36 2x lj,2 2x 2y,1 2x 2y",
  "c 30 53,1 30 53,9 jg 32,3f 2s am,1 2s am,1 2s am,1 30 2y,1 30 2y,1 30 2y,1 32 2y,1 32 2y",
  "1 32 2y,11 2s 3e,1 2s 3e,1 2s 3e,6d w li,1 w lj,1 w lm,1 w mg,1 w lf,1 w ln,2v lk ld,1i w qh",
  "a w ld,1 w lk ld,ea 12d 136,6m 17r 19w,1 18o 19w,1 1c7 19w,1 18q 19w,kg 1sl 1to,1 1sm 1to",
  "1 1sn 1to,1 1ss 1to,1 1sx 1to,1 1sy 1to,1 1t7 1to,1 1tb 1to,3h 1wh 1x8,1 1wi 1x8,2 1wv 1x8",
  "2c 20i 20s,3 20o 20s,z 1zq 20s,1 1zr 20s,1 1zw 20s,3 20b 20s,72 275 27w,1 276 27w,k6 2tp 2sy",
  "3k 2x9 2wi,15 2wb 2vt,1 2wb 2w1,2u 30i 33r,a 30s 33r,5 30x 33r,5 312 33r,5 317 33r,d 30g 33p",
  "a 31t 31u,2 31t 31w,1 33m 328,1 33m 31t 328,1 33n 328,1 33n 31t 328,8 31t 328,i 32q 33r",
  "a 330 33r,5 335 33r,5 33a 33r,5 33f 33r,d 32o 33p,2xt 2p ji,6e 64g qh,1 64h qh,1 64i qh",
  "1 64j qh,1 64k qh,1 64l qh,1 64m qh,1 64n qh,1 64g qh,1 64h qh,1 64i qh,1 64j qh,1 64k qh",
  "1 64l qh,1 64m qh,1 64n qh,1 65c qh,1 65d qh,1 65e qh,1 65f qh,1 65g qh,1 65h qh,1 65i qh",
  "1 65j qh,1 65c qh,1 65d qh,1 65e qh,1 65f qh,1 65g qh,1 65h qh,1 65i qh,1 65j qh,1 674 qh",
  "1 675 qh,1 676 qh,1 677 qh,1 678 qh,1 679 qh,1 67a qh,1 67b qh,1 674 qh,1 675 qh,1 676 qh",
  "1 677 qh,1 678 qh,1 679 qh,1 67a qh,1 67b qh,3 67k qh,1 q9 qh,1 q4 qh,3 69i qh,5 q9 qh",
  "1 w lv,2 w lv,1 w n6,1 w lk n6,1 67o qh,1 qf qh,1 q6 qh,3 69y qh,5 qf qh,1 w lv lc,1 w lv ld",
  "1 w lv n6,e w lw lc,1 w lw ld,1 w lw n6,e w lk lc,1 w lk ld,4 67w qh,1 qx qh,1 r2 qh",
  "3 6ba qh,5 qx qh,1 w ld,1 w lw,p w mr,s 6cy 6cy,1 6cy 6cy 6cy,2 6d1 6d1,1 6d1 6d1 6d1,5 x x",
  "2 w lh,9 1r 1r,1 1r x,1 x 1r,e 6cy 6cy 6cy 6cy,29 36 37,2g 2p 1b 2r,1 2p 1b 37,2 4w 2r",
  "2 2r 1b 33,1 2r 1b 39,3 4w 2u,d 32 33,a 37 31,1 38 2t 30,1 38 31,p 2u 2p 3c,l 1d 6dg 1j",
  "1 1d 6dg 1l,1 1d 6dg 1d 1c,1 1d 6dg 1f,1 1e 6dg 1f,1 1d 6dg 1h,1 1e 6dg 1h,1 1f 6dg 1h",
  "1 1g 6dg 1h,1 1d 6dg 1i,1 1h 6dg 1i,1 1d 6dg 1k,1 1f 6dg 1k,1 1h 6dg 1k,1 1j 6dg 1k,1 1d 6dg",
  "2 2x 2x,1 2x 2x 2x,1 2x 3a,2 3a 2x,1 3a 2x 2x,1 3a 2x 2x 2x,1 2x 3c,2 3c 2x,1 3c 2x 2x",
  "6 2x 2x,1 2x 2x 2x,1 2x 3a,2 3a 2x,1 3a 2x 2x,1 3a 2x 2x 2x,1 2x 3c,2 3c 2x,1 3c 2x 2x",
  "e 1c 6dg 1f,4j 6qz 6qz,1 6qz 6qz 6qz,2 6r2 6r2,1 6r2 6r2 6r2,ft 1d 1c,1 1d 1d,1 1d 1e",
  "1 1d 1f,1 1d 1g,1 1d 1h,1 1d 1i,1 1d 1j,1 1d 1k,1 1d 1l,1 1e 1c,1 14 1d 15,1 14 1e 15",
  "1 14 1f 15,1 14 1g 15,1 14 1h 15,1 14 1i 15,1 14 1j 15,1 14 1k 15,1 14 1l 15,1 14 1d 1c 15",
  "1 14 1d 1d 15,1 14 1d 1e 15,1 14 1d 1f 15,1 14 1d 1g 15,1 14 1d 1h 15,1 14 1d 1i 15",
  "1 14 1d 1j 15,1 14 1d 1k 15,1 14 1d 1l 15,1 14 1e 1c 15,l 14 2p 15,1 14 2q 15,1 14 2r 15",
  "1 14 2s 15,1 14 2t 15,1 14 2u 15,1 14 2v 15,1 14 2w 15,1 14 2x 15,1 14 2y 15,1 14 2z 15",
  "1 14 30 15,1 14 31 15,1 14 32 15,1 14 33 15,1 14 34 15,1 14 35 15,1 14 36 15,1 14 37 15",
  "1 14 38 15,1 14 39 15,1 14 3a 15,1 14 3b 15,1 14 3c 15,1 14 3d 15,1 14 3e 15",
  "11z 6qz 6qz 6qz 6qz,2w 1m 1m 1p,1 1p 1p,1 1p 1p 1p,2u 8gt mw,14v w 9ll,1 w 9lm,3 9l4 9l6",
  "2o 9mb 9mw,75 14 3cw 15,1 14 3cy 15,1 14 3cz 15,1 14 3d1 15,1 14 3d2 15,1 14 3d3 15",
  "1 14 3d5 15,1 14 3d7 15,1 14 3d8 15,1 14 3da 15,1 14 3db 15,1 14 3dc 15,1 14 3dd 15",
  "1 14 3de 15,1 14 xz4 15,1 14 yvs 15,1 14 zc4 15,1 14 108s 15,1 14 10p4 15,1 14 115g 15",
  "1 14 1224 15,1 14 12ys 15,1 14 13f4 15,1 14 14bs 15,1 14 14s4 15,1 14 158g 15,1 14 15os 15",
  "1 14 1654 15,1 14 13p8 15,1 14 1350 13ic 15,1 14 1350 16f8 15,2 14 feo 15,1 14 fik 15",
  "1 14 fex 15,1 14 h5n 15,1 14 fis 15,1 14 g31 15,1 14 fer 15,1 14 g2z 15,1 14 fh9 15",
  "1 14 gg1 15,1 14 kco 15,1 14 m7f 15,1 14 ldg 15,1 14 kdk 15,1 14 ssx 15,1 14 h7j 15",
  "1 14 k4l 15,1 14 kkq 15,1 14 kcp 15,1 14 ny6 15,1 14 glp 15,1 14 mm1 15,1 14 rs1 15",
  "1 14 nz1 15,1 14 gc4 15,1 14 fkz 15,1 14 gos 15,1 14 i1y 15,1 14 nhf 15,1 14 flt 15",
  "1 14 rt3 15,1 14 ggk 15,1 14 nzh 15,1 14 fm9 15,1 14 pnu 15,1 14 po3 15,d 34 38 2t,1 1e 1d",
  "1 1e 1e,1 1e 1f,1 1e 1g,1 1e 1h,1 1e 1i,1 1e 1j,1 1e 1k,1 1e 1l,1 1f 1c,1 1f 1d,1 1f 1e",
  "1 1f 1f,1 1f 1g,1 1f 1h,t 14c8 y5c,1 13p8 13dk,1g 1f 1i,1 1f 1j,1 1f 1k,1 1f 1l,1 1g 1c",
  "1 1g 1d,1 1g 1e,1 1g 1f,1 1g 1g,1 1g 1h,1 1g 1i,1 1g 1j,1 1g 1k,1 1g 1l,1 1h 1c,1 1d kco",
  "1 1e kco,1 1f kco,1 1g kco,1 1h kco,1 1i kco,1 1j kco,1 1k kco,1 1l kco,1 1d 1c kco",
  "1 1d 1d kco,1 1d 1e kco,1 2w 2v,1 2t 36 2v,1 2t 3a,1 30 38 2s,1c fl0 gp8,1 9lu 9n5 9oc 9mw",
  "1 9lu 9nv 9n9 9lt,1 9lu 9o3 9ne 9lu,1 9lu 9oc 9nv,1 9lw 9mz 9o3 9m8,1 9lw 9o3 9mp",
  "1 9ly 9m1 9o3,1 9m0 9mh 9m7 9oc 9mx,1 9m0 9oc 9m3 9oc,1 9m2 9o3 9mh,1 9m2 9oc 9nk",
  "1 9m3 9lw 9nu,1 9m3 9nt 9mr 9mw,1 9m3 9nx 9nu 9oc,1 9m4 9nx 9o3,1 9m4 9o3 9ni,1 9m6 9m4",
  "1 9m6 9mz 9oc,1 9m5 9np 9nu 9oc,1 9m6 9nv 9mo 9oc,1 9m5 9nx,1 9m5 9nx 9m8 9nt 9nk",
  "1 9m5 9nx 9nl 9oc 9mw 9nv,1 9m5 9nx 9nz 9mr 9mw,1 9m8 9nt 9nk,1 9m8 9nt 9nk 9mw 9o3",
  "1 9m7 9nv 9mk 9lw 9nx,1 9m7 9nx 9oc 9n1,1 9m9 9oc 9mh,1 9mb 9nv 9my,1 9mb 9oc 9nh",
  "1 9md 9lw 9m7 9nv,1 9md 9o3 9mp 9oc 9nk,1 9mf 9nu 9o3 9m8,1 9mj 9o3 9mp,1 9mj 9o3 9mw",
  "1 9mo 9oc 9mh,1 9mv 9mf,1 9mx 9nv,1 9mw 9o3,1 9my 9n2,1 9n2 9mr 9mw,1 9n3 9lw 9ms",
  "1 9n5 9oc 9mj 9o3 9mw,1 9n5 9oc 9ms,1 9n4 9oc 9nw 9nv,1 9n8 9lu 9mh 9mw 9nv,1 9n8 9m7 9nv",
  "1 9n8 9mb,1 9n7 9nv,1 9n9 9lt 9nt 9mr 9mx,1 9n9 9lv 9oc 9mw,1 9na 9mr 9mf 9lz 9nv",
  "1 9n9 9nt 9o3,1 9nc 9m7 9mn 9oc 9nv,1 9ne 9ml,1 9ne 9mz 9n6,1 9nc 9nv 9ms,1 9ne 9o3 9mh",
  "1 9ne 9oc 9mg,1 9nd 9oc 9mn,1 9nh 9lw 9o3 9mw,1 9ng 9nv 9mw,1 9nf 9o3,1 9nh 9o3 9mx",
  "1 9nf 9oc 9nv,1 9nf 9oc 9o3,1 9ni 9lw 9m7 9nx,1 9ni 9lw 9nv,1 9ni 9mr 9n3,1 9ni 9nv 9m7",
  "1 9ni 9o3 9mf 9nr 9o3,1 9nj 9m7 9nx 9o3,1 9nj 9nu,1 9nj 9nu 9n4 9oc 9nv,1 9nl 9m4",
  "1 9nl 9m4 9mw 9o3,1 9nl 9oc 9mw 9nv,1 9no 9oc 9mx,1 9no 9oc 9nv,1 9nq 9lu 9o3",
  "1 9nu 9mr 9mw 9nv,1 9nu 9nt,1 9nv 9n8 9oc,1 9nv 9oc 9na 9nv,1 9nw 9nk,1 9nw 9o3 9mw 9ma 9o3",
  "1 9nz 9mr 9mw,1 1c m9l,1 1d m9l,1 1e m9l,1 1f m9l,1 1g m9l,1 1h m9l,1 1i m9l,1 1j m9l",
  "1 1k m9l,1 1l m9l,1 1d 1c m9l,1 1d 1d m9l,1 1d 1e m9l,1 1d 1f m9l,1 1d 1g m9l,1 1d 1h m9l",
  "1 1d 1i m9l,1 1d 1j m9l,1 1d 1k m9l,1 1d 1l m9l,1 1e 1c m9l,1 1e 1d m9l,1 1e 1e m9l",
  "1 1e 1f m9l,1 1e 1g m9l,1 2w 34 2p,1 2s 2p,1 2p 39,1 2q 2p 36,1 33 3a,1 34 2r,1 2s 31",
  "1 2s 31 1e,1 2s 31 1f,1 2x 39,1 inn jdc,1 k6l gp8,1 hlz l7n,1 k5q lh7,1 kkq irz fmi ny6",
  "1 34 2p,1 32 2p,1 qk 2p,1 31 2p,1 2z 2p,1 2z 2q,1 31 2q,1 2v 2q,1 2r 2p 30,1 2z 2r 2p 30",
  "1 34 2u,1 32 2u,1 qk 2u,1 qk 2v,1 31 2v,1 2z 2v,1 2w 3e,1 2z 2w 3e,1 31 2w 3e,1 2v 2w 3e",
  "1 38 2w 3e,1 qk 30,1 31 30,1 2s 30,1 2z 30,1 2u 31,1 32 31,1 qk 31,1 31 31,1 2r 31,1 2z 31",
  "1 31 31 1e,1 2r 31 1e,1 31 1e,1 2z 31 1e,1 31 31 1f,1 2r 31 1f,1 31 1f,1 2z 31 1f",
  "1 31 6qd 37,1 31 6qd 37 1e,1 34 2p,1 2z 34 2p,1 31 34 2p,1 2v 34 2p,1 36 2p 2s",
  "1 36 2p 2s 6qd 37,1 36 2p 2s 6qd 37 1e,1 34 37,1 32 37,1 qk 37,1 31 37,1 34 3a,1 32 3a",
  "1 qk 3a,1 31 3a,1 2z 3a,1 31 3a,1 34 3b,1 32 3b,1 qk 3b,1 31 3b,1 2z 3b,1 31 3b,1 2z qx",
  "1 31 qx,2 2q 35,1 2r 2r,1 2r 2s,1 2r 6qd 2z 2v,2 2s 2q,1 2v 3d,1 2w 2p,1 2w 34,1 2x 32",
  "1 2z 2z,1 2z 31,1 2z 38,1 30 31,1 30 32,1 30 33 2v,1 30 3c,1 31 2q,1 31 2x 30,1 31 33 30",
  "1 34 2w,2 34 34 31,1 34 36,1 37 36,1 37 3a,1 3b 2q,1 3a 6qd 31,1 2p 6qd 31,1 1d k4l,1 1e k4l",
  "1 1f k4l,1 1g k4l,1 1h k4l,1 1i k4l,1 1j k4l,1 1k k4l,1 1l k4l,1 1d 1c k4l,1 1d 1d k4l",
  "1 1d 1e k4l,1 1d 1f k4l,1 1d 1g k4l,1 1d 1h k4l,1 1d 1i k4l,1 1d 1j k4l,1 1d 1k k4l",
  "1 1d 1l k4l,1 1e 1c k4l,1 1e 1d k4l,1 1e 1e k4l,1 1e 1f k4l,1 1e 1g k4l,1 1e 1h k4l",
  "1 1e 1i k4l,1 1e 1j k4l,1 1e 1k k4l,1 1e 1l k4l,1 1f 1c k4l,1 1f 1d k4l,1 2v 2p 30",
  "13b5 2u 2u,1 2u 2x,1 2u 30,1 2u 2u 2x,1 2u 2u 30,1 37 38,1 37 38,d 12s 12u,1 12s 12d",
  "1 12s 12j,1 132 12u,1 12s 12l,6 15l 14k,2 16a 14n,b 161 14x,1 161 14y,1 161 14s 14x",
  "1 161 14s 14y,1 15c 14n,1 15c 14o,1 15c 14s,1 15d 14s,1 15e 14s,1 15f 14s,1 15g 14s",
  "1 15h 14s,1 15i 14s,2 15k 14s,1 15l 14s,1 15m 14s,1 15n 14s,1 15o 14s,2 15q 14s,2 15s 14s",
  "1 15t 14s,2 15v 14s,1 15w 14s,2 15y 14s,1 15z 14s,1 160 14s,1 161 14s,1 162 14s,1 15h 14p",
  "1 15d 14v,1 15n 14v,1 15w 14v,1 15c 15o,3y 1c7 19w,d 17q 17r,1 17q 17r,1 17q 1cl,1 17q 1cl",
  "1 17q 18o,1 17q 18o,1 17q 1c7,1 17q 1c7,1 17q 1c6,1 17q 1c6,1 17q 1c8,1 17q 1c8,1 17q 1cg",
  "1 17q 1cg,1 17q 1cg,1 17q 18p,1 17q 18p,1 17q 18p,5 17q 17w,1 17q 17x,1 17q 18l,1 17q 18p",
  "1 17q 18q,1 17s 17w,1 17s 17x,1 17s 17y,1 17s 18l,1 17s 18p,1 17s 18q,1 17u 17w,1 17u 17x",
  "1 17u 17y,1 17u 18l,1 17u 18p,1 17u 18q,1 17v 17w,1 17v 18l,1 17v 18p,1 17v 18q,1 17w 17x",
  "1 17w 18l,1 17x 17w,1 17x 18l,1 17y 17w,1 17y 17x,1 17y 18l,1 183 17w,1 183 17x,1 183 17y",
  "1 183 18l,1 185 17x,1 185 18l,1 186 17w,1 186 17x,1 186 17y,1 186 18l,1 187 17x,1 187 18l",
  "1 188 18l,1 189 17w,1 189 18l,1 18a 17w,1 18a 18l,1 18h 17w,1 18h 17x,1 18h 17y,1 18h 18l",
  "1 18h 18p,1 18h 18q,1 18i 17x,1 18i 18l,1 18i 18p,1 18i 18q,1 18j 17r,1 18j 17w,1 18j 17x",
  "1 18j 17y,1 18j 18k,1 18j 18l,1 18j 18p,1 18j 18q,1 18k 17w,1 18k 17x,1 18k 17y,1 18k 18l",
  "1 18k 18p,1 18k 18q,1 18l 17w,1 18l 17x,1 18l 17y,1 18l 18l,1 18l 18p,1 18l 18q,1 18m 17w",
  "1 18m 17x,1 18m 17y,1 18m 18l,1 18m 18p,1 18m 18q,1 18n 17w,1 18n 18l,1 18n 18p,1 18n 18q",
  "1 18q 17w,1 18q 17x,1 18q 17y,1 18q 18l,1 18q 18p,1 18q 18q,1 180 19s,1 181 19s,1 18p 19s",
  "1 w 18s 18x,1 w 18t 18x,1 w 18u 18x,1 w 18v 18x,1 w 18w 18x,1 w 18x 19s,1 17q 181,1 17q 182",
  "1 17q 18l,1 17q 18m,1 17q 18p,1 17q 18q,1 17s 181,1 17s 182,1 17s 18l,1 17s 18m,1 17s 18p",
  "1 17s 18q,1 17u 181,1 17u 182,1 17u 18l,1 17u 18m,1 17u 18p,1 17u 18q,1 17v 181,1 17v 182",
  "1 17v 18l,1 17v 18m,1 17v 18p,1 17v 18q,1 18h 18p,1 18h 18q,1 18i 18p,1 18i 18q,1 18j 17r",
  "1 18j 18k,1 18j 18l,1 18j 18p,1 18j 18q,1 18k 18l,1 18k 18p,1 18k 18q,1 18l 17r,1 18l 18l",
  "1 18m 181,1 18m 182,1 18m 18l,1 18m 18m,1 18m 18p,1 18m 18q,1 18p 19s,1 18q 181,1 18q 182",
  "1 18q 18l,1 18q 18m,1 18q 18p,1 18q 18q,1 17q 17w,1 17q 17x,1 17q 17y,1 17q 18l,1 17q 18n",
  "1 17s 17w,1 17s 17x,1 17s 17y,1 17s 18l,1 17s 18n,1 17u 17w,1 17u 17x,1 17u 17y,1 17u 18l",
  "1 17u 18n,1 17v 18l,1 17w 17x,1 17w 18l,1 17x 17w,1 17x 18l,1 17y 17w,1 17y 18l,1 183 17w",
  "1 183 17x,1 183 17y,1 183 18l,1 185 17x,1 185 17y,1 185 18l,1 186 17w,1 186 17x,1 186 17y",
  "1 186 18l,1 187 17x,1 188 18l,1 189 17w,1 189 18l,1 18a 17w,1 18a 18l,1 18h 17w,1 18h 17x",
  "1 18h 17y,1 18h 18l,1 18i 17x,1 18i 18l,1 18j 17w,1 18j 17x,1 18j 17y,1 18j 18k,1 18j 18l",
  "1 18k 17w,1 18k 17x,1 18k 17y,1 18k 18l,1 18k 18n,1 18l 17w,1 18l 17x,1 18l 17y,1 18l 18l",
  "1 18m 17w,1 18m 17x,1 18m 17y,1 18m 18l,1 18m 18n,1 18n 17w,1 18n 18l,1 18n 19s,1 18q 17w",
  "1 18q 17x,1 18q 17y,1 18q 18l,1 18q 18n,1 17q 18l,1 17q 18n,1 17s 18l,1 17s 18n,1 17u 18l",
  "1 17u 18n,1 17v 18l,1 17v 18n,1 183 18l,1 183 18n,1 184 18l,1 184 18n,1 18j 18k,1 18j 18l",
  "1 18k 18l,1 18m 18l,1 18m 18n,1 18q 18l,1 18q 18n,1 18g 18u 18x,1 18g 18v 18x,1 18g 18w 18x",
  "1 187 18p,1 187 18q,1 189 18p,1 189 18q,1 18a 18p,1 18a 18q,1 183 18p,1 183 18q,1 184 18p",
  "1 184 18q,1 17x 18p,1 17x 18q,1 17w 18p,1 17w 18q,1 17y 18p,1 17y 18q,1 185 18p,1 185 18q",
  "1 186 18p,1 186 18q,1 184 17w,1 184 17x,1 184 17y,1 184 18l,1 184 181,1 183 181,1 185 181",
  "1 186 181,1 187 18p,1 187 18q,1 189 18p,1 189 18q,1 18a 18p,1 18a 18q,1 183 18p,1 183 18q",
  "1 184 18p,1 184 18q,1 17x 18p,1 17x 18q,1 17w 18p,1 17w 18q,1 17y 18p,1 17y 18q,1 185 18p",
  "1 185 18q,1 186 18p,1 186 18q,1 184 17w,1 184 17x,1 184 17y,1 184 18l,1 184 181,1 183 181",
  "1 185 181,1 186 181,1 184 17w,1 184 17x,1 184 17y,1 184 18l,1 183 18n,1 184 18n,1 187 18l",
  "1 183 17w,1 183 17x,1 183 17y,1 184 17w,1 184 17x,1 184 17y,1 187 18l,1 188 18l,1 17r 18r",
  "1 17r 18r,j 17u 17w 18l,1 17u 17x 17w,1 17u 17x 17w,1 17u 17x 18l,1 17u 17y 18l",
  "1 17u 18l 17w,1 17u 18l 17x,1 17u 18l 17y,1 17w 18l 17x,1 17w 18l 17x,1 17x 18l 18q",
  "1 17x 18l 18p,1 183 17x 17w,1 183 17w 17x,1 183 17w 18p,1 183 18l 17x,1 183 18l 17x",
  "1 183 18l 17w,1 183 18l 18l,1 183 18l 18l,1 185 17x 17x,1 185 17x 17x,1 185 18l 18l",
  "1 184 17x 18l,1 184 17x 18l,1 184 17w 18q,1 184 18l 17y,1 184 18l 17y,1 184 18l 18l",
  "1 184 18l 18l,1 186 17x 18p,1 186 17y 18l,1 186 17y 18l,1 187 18l 17x,1 187 18l 17x",
  "1 187 18l 18l,1 187 18l 18q,1 189 17w 18l,1 189 18l 18l,1 189 18l 18l,1 189 18l 18p",
  "1 18a 18l 18l,1 18a 18l 18q,1 18a 18l 18p,1 18h 17y 18l,1 18h 17y 18l,1 18i 18l 17x",
  "1 18i 18l 18l,1 18k 17x 18l,1 18k 17x 18q,1 18k 17x 18p,1 18k 17w 17w,1 18k 17w 17w",
  "1 18k 17y 18l,1 18k 17y 18l,1 18k 18l 17x,1 18k 18l 17x,1 18l 17x 17w,1 18l 17x 18l",
  "1 18l 17x 18q,1 18l 17w 17x,1 18l 17w 18l,1 18l 17y 17w,1 18l 17y 18l,3 18l 17w 17y",
  "1 18n 18l 17w,1 18n 18l 18l,1 18m 17x 18l,1 18m 17x 18p,1 18m 17w 18l,1 18m 17w 18l",
  "1 18m 17w 18p,1 18m 18l 18q,1 18m 18l 18p,1 18q 18l 18l,1 18q 18l 18l,1 17s 17y 18q",
  "1 17u 17w 18q,1 17u 17w 18p,1 17u 17y 18q,1 17u 17y 18p,1 17u 18l 18q,1 17u 18l 18p",
  "1 17w 18l 18q,1 17w 17x 18p,1 17w 18l 18p,1 183 17y 18p,1 185 17x 18q,1 184 17x 18q",
  "1 186 17x 18q,1 18k 17w 18q,1 18k 18l 18q,1 18q 17x 18q,1 18q 17w 18q,1 18q 18l 18q",
  "1 18l 18l 18q,1 18i 18l 18q,1 18m 17x 18q,1 18i 18l 17x,1 18k 17x 18l,1 189 18l 18q",
  "1 18j 18l 18q,1 18m 17w 17x,1 18l 17y 18q,1 18k 17w 18l,1 18j 18l 18l,1 18k 17w 18l",
  "1 18m 17w 17x,1 17w 17x 18q,1 17x 17w 18q,1 18l 17w 18q,1 18h 18l 18q,1 17s 17x 18q",
  "1 18j 18l 18l,1 189 17w 18l,1 185 18l 18l,1 183 17y 18q,1 18m 17w 18q,15 185 18k 1ci",
  "1 18i 18k 1ci,1 17r 18k 18k 18n,1 17r 18j 17s 181,1 18l 17x 18l 17z,1 185 18k 189 18l",
  "1 181 183 18o 18k,1 189 18k 18q 18n,1 18o 183 18k 18l,1 185 18k 18p",
  "1 185 18k 18p w 17r 18k 18k 18n w 189 18k 18q 18n w 18o 183 18k 18l",
  "1 17w 18k w 17w 18k 17r 18k 18n,1 181 1cc 17r 18k,25 w lh,1 w lh,1 w lh,1 w lh,10 w 18r",
  "1 18g 18r,1 w 18s,2 w 18t,2 w 18u,1 18g 18u,1 w 18v,1 18g 18v,1 w 18w,1 18g 18w,1 w 18x",
  "1 18g 18x,1 w 18y,1 18g 18y,3a 18k 17m,1 18k 17m,1 18k 17n,1 18k 17n,1 18k 17p,1 18k 17p",
  "1 18k 17r,1 18k 17r,6f w lg,15dn 2jx3 2jxh,1 2jx4 2jxh,1 2jx4 2jxh 2jxq,1 2jx4 2jxh 2jxr",
  "1 2jx4 2jxh 2jxs,1 2jx4 2jxh 2jxt,1 2jx4 2jxh 2jxu,2f 2jzt 2jxh,1 2jzu 2jxh,1 2jzt 2jxh 2jxq",
  "1 2jzu 2jxh 2jxq,1 2jzt 2jxh 2jxr,1 2jzu 2jxh 2jxr,669 1c 18,1 1d 18,1 1e 18,1 1f 18,1 1g 18",
  "1 1h 18,1 1i 18,1 1j 18,1 1k 18,1 1l 18,6 14 2p 15,1 14 2q 15,1 14 2r 15,1 14 2s 15",
  "1 14 2t 15,1 14 2u 15,1 14 2v 15,1 14 2w 15,1 14 2x 15,1 14 2y 15,1 14 2z 15,1 14 30 15",
  "1 14 31 15,1 14 32 15,1 14 33 15,1 14 34 15,1 14 35 15,1 14 36 15,1 14 37 15,1 14 38 15",
  "1 14 39 15,1 14 3a 15,1 14 3b 15,1 14 3c 15,1 14 3d 15,1 14 3e 15,1 9hw 37 9hx,3 2r 2s",
  "1 3b 3e,s 2w 3a,1 31 3a,1 37 2s,1 37 37,1 34 34 3a,1 3b 2r,r 31 2r,1 31 2s,1 31 36,10 2s 2y",
  "34 9kr 9jf,1 9mb 9mb,1r 9hw kdo 9hx,1 9hw fex 9hx,1 9hw fik 9hx,1 9hw i2x 9hx,1 9hw m9l 9hx",
  "1 9hw jf7 9hx,1 9hw nh3 9hx,1 9hw gd9 9hx,1 9hw k0n 9hx"]

end Perimeter.Idn
