import TabSearch.Unicode.RangeSet

namespace TabSearch.Unicode

def graphemeBreakTable : List (List String × List String) := [
  (["cn", "control"],
    ["0 9 2 1 2 h 2o w e 0 12n 0 3jm 0 1kt 0 3 1 p 6 1e f 17yo 0 6p b ab9 f qxt 3 440 7 h406 v ",
    "2p 3j 6p 2rz"]),
  (["cr"],
    ["d 0"]),
  (["ex", "extend"],
    ["lc 33 7o 6 7c 18 2 0 2 1 2 1 2 0 21 a 1d k h 0 2u 6 3 5 3 1 2 3 10 0 v q 2k a 1n 8 a 0 p ",
    "3 2 8 2 2 2 4 18 2 1p 7 17 n 2 v 1k 0 2 0 5 7 5 0 4 6 b 1 u 0 1n 0 2 0 3 3 9 0 a 0 b 1 r ",
    "0 3 1 1m 0 5 1 5 1 3 2 4 0 v 1 4 0 c 1 1m 0 5 4 2 1 5 0 l 1 n 5 2 0 1n 0 2 1 2 3 9 0 8 2 ",
    "b 1 v 0 1o 0 2 0 d 0 a 0 15 0 4 0 1k 0 2 2 6 2 2 3 8 1 c 1 u 0 1n 0 3 0 3 0 4 0 6 1 8 1 c ",
    "1 t 1 1m 1 2 0 3 3 9 0 a 0 b 1 u 0 21 0 5 0 3 2 2 0 9 0 2a 0 3 6 d 7 2r 0 3 8 c 6 22 1 s ",
    "0 2 0 2 0 1k d 2 4 2 1 6 a 2 z a 0 2v 3 2 5 2 1 3 1 q 1 5 2 h 3 e 0 3 1 7 0 g 0 jk 2 qb 2 ",
    "u 1 v 1 v 1 1t 1 2 6 9 0 3 a a 0 1a 2 2 0 3a 1 z 0 3b 2 5 1 a 0 7 2 64 1 3 0 1n 0 2 6 2 0 ",
    "2 0 3 7 7 9 3 0 1d u 1e 3 1d 6 2 0 6 0 15 8 d 1 x 3 3 1 2 2 1l 0 2 1 4 0 2 2 1n 7 3 1 49 ",
    "2 2 c 2 6 5 0 7 0 4 1 5j 1r el 0 5g w 2db 2 3y 0 2p v ff 5 2y 1 n9x 3 2 9 x 1 29 1 7l 0 4 ",
    "0 5 0 q 1 6 0 48 1 r h e 0 13 7 q a 1b 2 1d 0 3 3 3 1 14 0 1w 5 3 1 3 1 d 0 9 0 1c 0 1g 0 ",
    "2 2 3 1 6 1 2 0 17 1 9 0 6n 0 3 0 5 0 fn5 0 ki f h f a7 1 gu 0 6b 0 46 4 1af 2 2 1 6 3 15 ",
    "2 5 0 4m 1 fy 3 as 1 29 2 1z a 1e 3 3g 0 1j e 16 0 3 1 b 2 1e 3 3 1 8 0 1q 2 11 4 2 7 1r ",
    "0 d 1 1h 8 b 3 3 0 2o 2 3 0 2 1 7 0 3 0 4e 0 4 7 m 1 1m 1 2 0 2 0 n 0 f 6 4 4 5g 7 3 2 2 ",
    "0 o 0 2a 0 3 5 2 0 3 0 2 1 2 1 6k 0 3 3 7 1 2 1 s 1 2e 7 3 0 2 1 2z 0 2 0 3 5 2 0 2u 2 3 ",
    "3 2 4 78 8 2 1 6u 0 b 1 2 0 5 0 41 3 3 1 5 0 x 9 15 5 3 3 9 0 a 5 3 2 1b c 2 1 bb 6 2 5 2 ",
    "0 2b l 3 6 2 1 2 1 3f 5 4 0 2 1 2 6 2 0 21 1 4 0 2 0 9o 1 c 1 1h 4 6 0 2 0 45a 0 7 e asb ",
    "4 1o 6 t5 0 1s 3 2a 0 f5l 1 3mq 19 3 m f3 0 2 2 5 4 9 7 3 6 v 3 45 2 1j0 1i 5 1d 9 0 f 0 ",
    "n 4 2 e 11t 6 2 g 3 6 2 1 2 4 2t 0 4h 6 ag 0 1q 3 e5 3 rl 6 32 6 241 4 gx7l 2n 3l 6n"]),
  (["l"],
    ["3cw 2n u0x s"]),
  (["lf"],
    ["a 0"]),
  (["lv"],
    ["xz4 0 s 0 s 0 s 0 s 0 s 0 s 0 s 0 s 0 s 0 s 0 s 0 s 0 s 0 s 0 s 0 s 0 s 0 s 0 s 0 s 0 s 0 ",
    "s 0 s 0 s 0 s 0 s 0 s 0 s 0 s 0 s 0 s 0 s 0 s 0 s 0 s 0 s 0 s 0 s 0 s 0 s 0 s 0 s 0 s 0 s ",
    "0 s 0 s 0 s 0 s 0 s 0 s 0 s 0 s 0 s 0 s 0 s 0 s 0 s 0 s 0 s 0 s 0 s 0 s 0 s 0 s 0 s 0 s 0 ",
    "s 0 s 0 s 0 s 0 s 0 s 0 s 0 s 0 s 0 s 0 s 0 s 0 s 0 s 0 s 0 s 0 s 0 s 0 s 0 s 0 s 0 s 0 s ",
    "0 s 0 s 0 s 0 s 0 s 0 s 0 s 0 s 0 s 0 s 0 s 0 s 0 s 0 s 0 s 0 s 0 s 0 s 0 s 0 s 0 s 0 s 0 ",
    "s 0 s 0 s 0 s 0 s 0 s 0 s 0 s 0 s 0 s 0 s 0 s 0 s 0 s 0 s 0 s 0 s 0 s 0 s 0 s 0 s 0 s 0 s ",
    "0 s 0 s 0 s 0 s 0 s 0 s 0 s 0 s 0 s 0 s 0 s 0 s 0 s 0 s 0 s 0 s 0 s 0 s 0 s 0 s 0 s 0 s 0 ",
    "s 0 s 0 s 0 s 0 s 0 s 0 s 0 s 0 s 0 s 0 s 0 s 0 s 0 s 0 s 0 s 0 s 0 s 0 s 0 s 0 s 0 s 0 s ",
    "0 s 0 s 0 s 0 s 0 s 0 s 0 s 0 s 0 s 0 s 0 s 0 s 0 s 0 s 0 s 0 s 0 s 0 s 0 s 0 s 0 s 0 s 0 ",
    "s 0 s 0 s 0 s 0 s 0 s 0 s 0 s 0 s 0 s 0 s 0 s 0 s 0 s 0 s 0 s 0 s 0 s 0 s 0 s 0 s 0 s 0 s ",
    "0 s 0 s 0 s 0 s 0 s 0 s 0 s 0 s 0 s 0 s 0 s 0 s 0 s 0 s 0 s 0 s 0 s 0 s 0 s 0 s 0 s 0 s 0 ",
    "s 0 s 0 s 0 s 0 s 0 s 0 s 0 s 0 s 0 s 0 s 0 s 0 s 0 s 0 s 0 s 0 s 0 s 0 s 0 s 0 s 0 s 0 s ",
    "0 s 0 s 0 s 0 s 0 s 0 s 0 s 0 s 0 s 0 s 0 s 0 s 0 s 0 s 0 s 0 s 0 s 0 s 0 s 0 s 0 s 0 s 0 ",
    "s 0 s 0 s 0 s 0 s 0 s 0 s 0 s 0 s 0 s 0 s 0 s 0 s 0 s 0 s 0 s 0 s 0 s 0 s 0 s 0 s 0 s 0 s ",
    "0 s 0 s 0 s 0 s 0 s 0 s 0 s 0 s 0 s 0 s 0 s 0 s 0 s 0 s 0 s 0 s 0 s 0 s 0 s 0 s 0 s 0 s 0 ",
    "s 0 s 0 s 0 s 0 s 0 s 0 s 0 s 0 s 0 s 0 s 0 s 0 s 0 s 0 s 0 s 0 s 0 s 0 s 0 s 0 s 0 s 0 s ",
    "0 s 0 s 0 s 0 s 0 s 0 s 0 s 0 s 0 s 0 s 0 s 0 s 0 s 0 s 0 s 0 s 0 s 0 s 0 s 0 s 0 s 0 s 0 ",
    "s 0 s 0 s 0 s 0 s 0 s 0 s 0 s 0 s 0 s 0 s 0 s 0 s 0 s 0 s 0 s 0 s 0"]),
  (["lvt"],
    ["xz5 q 2 q 2 q 2 q 2 q 2 q 2 q 2 q 2 q 2 q 2 q 2 q 2 q 2 q 2 q 2 q 2 q 2 q 2 q 2 q 2 q 2 q ",
    "2 q 2 q 2 q 2 q 2 q 2 q 2 q 2 q 2 q 2 q 2 q 2 q 2 q 2 q 2 q 2 q 2 q 2 q 2 q 2 q 2 q 2 q 2 ",
    "q 2 q 2 q 2 q 2 q 2 q 2 q 2 q 2 q 2 q 2 q 2 q 2 q 2 q 2 q 2 q 2 q 2 q 2 q 2 q 2 q 2 q 2 q ",
    "2 q 2 q 2 q 2 q 2 q 2 q 2 q 2 q 2 q 2 q 2 q 2 q 2 q 2 q 2 q 2 q 2 q 2 q 2 q 2 q 2 q 2 q 2 ",
    "q 2 q 2 q 2 q 2 q 2 q 2 q 2 q 2 q 2 q 2 q 2 q 2 q 2 q 2 q 2 q 2 q 2 q 2 q 2 q 2 q 2 q 2 q ",
    "2 q 2 q 2 q 2 q 2 q 2 q 2 q 2 q 2 q 2 q 2 q 2 q 2 q 2 q 2 q 2 q 2 q 2 q 2 q 2 q 2 q 2 q 2 ",
    "q 2 q 2 q 2 q 2 q 2 q 2 q 2 q 2 q 2 q 2 q 2 q 2 q 2 q 2 q 2 q 2 q 2 q 2 q 2 q 2 q 2 q 2 q ",
    "2 q 2 q 2 q 2 q 2 q 2 q 2 q 2 q 2 q 2 q 2 q 2 q 2 q 2 q 2 q 2 q 2 q 2 q 2 q 2 q 2 q 2 q 2 ",
    "q 2 q 2 q 2 q 2 q 2 q 2 q 2 q 2 q 2 q 2 q 2 q 2 q 2 q 2 q 2 q 2 q 2 q 2 q 2 q 2 q 2 q 2 q ",
    "2 q 2 q 2 q 2 q 2 q 2 q 2 q 2 q 2 q 2 q 2 q 2 q 2 q 2 q 2 q 2 q 2 q 2 q 2 q 2 q 2 q 2 q 2 ",
    "q 2 q 2 q 2 q 2 q 2 q 2 q 2 q 2 q 2 q 2 q 2 q 2 q 2 q 2 q 2 q 2 q 2 q 2 q 2 q 2 q 2 q 2 q ",
    "2 q 2 q 2 q 2 q 2 q 2 q 2 q 2 q 2 q 2 q 2 q 2 q 2 q 2 q 2 q 2 q 2 q 2 q 2 q 2 q 2 q 2 q 2 ",
    "q 2 q 2 q 2 q 2 q 2 q 2 q 2 q 2 q 2 q 2 q 2 q 2 q 2 q 2 q 2 q 2 q 2 q 2 q 2 q 2 q 2 q 2 q ",
    "2 q 2 q 2 q 2 q 2 q 2 q 2 q 2 q 2 q 2 q 2 q 2 q 2 q 2 q 2 q 2 q 2 q 2 q 2 q 2 q 2 q 2 q 2 ",
    "q 2 q 2 q 2 q 2 q 2 q 2 q 2 q 2 q 2 q 2 q 2 q 2 q 2 q 2 q 2 q 2 q 2 q 2 q 2 q 2 q 2 q 2 q ",
    "2 q 2 q 2 q 2 q 2 q 2 q 2 q 2 q 2 q 2 q 2 q 2 q 2 q 2 q 2 q 2 q 2 q 2 q 2 q 2 q 2 q 2 q 2 ",
    "q 2 q 2 q 2 q 2 q 2 q 2 q 2 q 2 q 2 q 2 q 2 q 2 q 2 q 2 q 2 q 2 q 2 q 2 q 2 q 2 q 2 q 2 q ",
    "2 q 2 q 2 q 2 q 2 q 2 q 2 q 2 q 2 q 2 q 2 q 2 q 2 q 2 q 2 q 2 q 2 q"]),
  (["pp", "prepend"],
    ["16o 5 60 0 1e 0 ap 1 29 0 vg 0 1f8v 0 g 0 6t 1 1h8 0 2 0 6x 0 22 5 jh 0 cc 0"]),
  (["ri", "regionalindicator"],
    ["2qcm p"]),
  (["sm", "spacingmark"],
    ["1s3 0 1k 0 3 2 9 3 2 1 1f 1 1o 1 7 1 3 1 1j 0 1n 2 1v 0 1n 2 9 0 2 1 1i 1 1p 0 7 1 3 1 37 ",
    "0 2 1 4 2 2 2 1h 2 1q 3 1q 1 1n 0 2 1 2 1 3 1 2 1 14 0 f 1 1o 1 6 2 2 2 1i 1 25 1 7 6 k 1 ",
    "1s 0 3k 0 3v 1 1s 0 4y 0 a 1 q 1 19 0 1ap 0 v 0 3m 0 8 7 2 1 9n 3 3 2 5 1 2 5 69 1 1n 0 2 ",
    "0 m 5 42 0 1j 0 2 4 2 1 1q 0 v 0 5 1 3 0 1p 0 3 2 2 0 4 1 1d 7 9 1 4s 0 m 0 rho 1 3 0 2h ",
    "1 1f f 3z 1 1c 0 1d 1 5 1 3 2 33 1 3 1 p 0 4e 0 3 1 6 0 6m 1 2 1 2 1 2 0 jro 0 2 0 3k 0 ",
    "1a 2 5 1 38 0 p 1 1o 0 1d 2 a 1 e 0 2m 2 4 1 2 0 4r 2 w 1 1o 0 2 3 3 1 3 2 l 1 5u 2 9 1 4 ",
    "0 30 1 7 0 2 1 2 0 3 0 6n 1 7 3 3 0 36 2 9 1 2 0 32 0 2 1 7 0 34 0 7a 2 a 0 6x 4 2 1 5 0 ",
    "3 0 2 0 3z 2 9 3 5 0 2d 0 u 1 1r 0 bc 0 f 0 2z 0 8 0 3 0 5y 4 5 1 2 0 9r 1 d 0 1d 1 9 1 2 ",
    "0 ftc 1i 2x 1 j91 0 7 0"]),
  (["t"],
    ["3hk 2f 132k 1c"]),
  (["v"],
    ["3fk 1z 1349 m"]),
  (["xx", "other"],
    ["w 2m y c 2 gh 35 7m 8 7a 1a 0 2 0 3 0 3 0 2 1j 7 9 c 0 2 19 m f 2 2s 9 0 7 1 3 0 5 w 2 0 ",
    "2 t s 2i c 1l a 8 2 n 5 0 a 0 4 0 6 16 4 1f 3 5 9 15 1n 1h 4 0 j 0 8 9 3 s 4 1j 2 0 8 1 3 ",
    "1 4 8 2 9 3 p 2 1 4 1j 2 0 6 3 3 1 4 2 2 t 3 2 2 a 4 1j 2 0 9 0 4 0 4 j 3 l 7 0 4 1j 2 0 ",
    "8 1 3 1 4 6 4 9 3 t 2 1m 6 2 4 0 5 8 2 13 6 1i 2 0 8 0 4 0 5 6 3 a 3 s 4 1j 2 0 8 0 4 0 5 ",
    "6 3 a 3 e 2 b 5 1i 3 0 8 0 4 0 6 7 2 9 3 s 4 1x 2 3 7 0 2 0 9 h 3 1o 2 0 9 b 9 2p 2 0 b a ",
    "8 20 3 q 2 0 2 0 2 3 3 1c l 0 3 4 c 0 11 8 2 2t c 0 7 m 5 3 4 f 5 c 2 0 4 5 2 e 2 2p 75 ",
    "9o 4 q9 5 r 4 s 3 t 3 1r x 8 2 18 6 38 3 x 2 39 d 3 d 62 6 1k b 0 2 0 2 1 p 1 2 1b w 1c 6 ",
    "1a i 11 a b 4 t e 1j f 1b l 47 4 0 m 3 2 5 2 1 4 5h 1t ei 6 n 8 1c h 2n y 2d9 4 3w 2 2n x ",
    "fd 7 2w 3 n9v 5 0 b v 3 27 3 7j 2 2 2 3 2 m 6 3 2 2a 3 1d j p j c 2 11 9 o e b u 2 5 1a f ",
    "z 2 1u f b 2 7 3 19 2 1e 2 0 4 1 3 4 3 0 2 14 6 4 3 6j 9 0 3 h 8md b o 3 1e 6xt 2 kg h f ",
    "h 5q 2 4d 3 27 d e8 2 69 2 44 6 1ad 4 0 3 4 5 13 4 3 2 4k 3 fw 5 aq 3 27 4 1x c 1c 5 3d 4 ",
    "1g g 14 2 1 3 9 5 18 c 1 2 3 2 9 2 1d 4 z f f 3 17 2 b 4 1b f 0 3 4 5 0 3 2j d 5 2 1 2 4c ",
    "d k 5 1i 3 0 8 1 3 1 4 8 2 9 3 1 8 2 6 5b j m 2 28 l 6i 8 1 a q 3 29 i 2x e 2s 4 1 b 73 g ",
    "6s 7 0 3 1 a 3w 8 1 8 2 2 r b 13 d 7 2 8 c 13 n b8 9 0 9 29 n 0 f 3d 7 2 2 0 3 0 a 1t 6 0 ",
    "3 0 6 9m 5 8 5 1b 8 2 6 44s i 5 g as9 6 1m 8 t3 2 0 1k 6 5 28 2 a 3 f56 3 0 5 3mj 1b 1 o ",
    "f1 6 2 n 1 8 t 5 43 4 1iy 1k 3 1f 7 2 d 2 l 6 0 g 11r 8 0 i 1 8 0 3 0 6 2r 2 4f 8 ae 2 1o ",
    "5 e3 5 rj 8 30 8 1p6 r e2 6 gx6n 35t 44jj"]),
  (["zwj"],
    ["6bx 0"])]

def wordBreakTable : List (List String × List String) := [
  (["cr"],
    ["d 0"]),
  (["dq", "doublequote"],
    ["y 0"]),
  (["ex", "extendnumlet"],
    ["2n 0 6a8 0 g 1 k 0 17tr 1 p 2 6o 0"]),
  (["extend"],
    ["lc 33 7o 6 7c 18 2 0 2 1 2 1 2 0 21 a 1d k h 0 2u 6 3 5 3 1 2 3 10 0 v q 2k a 1n 8 a 0 p ",
    "3 2 8 2 2 2 4 18 2 1p 7 17 n 2 w 1j 2 2 h 2 6 b 1 u 2 1l 0 2 6 3 1 3 2 a 0 b 1 r 0 3 2 1l ",
    "0 2 4 5 1 3 2 4 0 v 1 4 0 c 2 1l 0 2 7 2 2 2 2 l 1 n 5 2 2 1l 0 2 6 3 1 3 2 8 2 b 1 v 0 ",
    "1o 4 4 2 2 3 a 0 15 4 1k 0 2 6 2 2 2 3 8 1 c 1 u 2 1l 0 2 6 2 2 2 3 8 1 c 1 g 0 d 3 1k 1 ",
    "2 6 2 2 2 3 a 0 b 1 u 2 1z 0 5 5 2 0 2 7 j 1 1q 0 3 6 d 7 2r 0 3 8 c 6 22 1 s 0 2 0 2 0 5 ",
    "1 1e j 2 1 6 a 2 z a 0 2t j o 3 5 2 2 2 3 6 4 3 e b 2 0 b 3 jk 2 qb 3 t 2 u 1 v 1 1t v a ",
    "0 1a 2 2 0 3a 1 z 0 3b b 5 b 64 4 1m 9 2 s 3 0 1d u 1e 4 1c g 13 8 d 2 v c 1l d 1d j 49 2 ",
    "2 k 5 0 7 0 3 2 5j 1r el 0 5g w 2db 2 3y 0 2p v ff 5 2y 1 n9x 3 2 9 x 1 29 1 7l 0 4 0 5 0 ",
    "o 4 5 0 2c 1 1f h r h e 0 13 7 q c 19 3 1c d 11 0 1w d d 0 9 1 1a 2 1f 0 2 2 3 1 6 1 2 0 ",
    "16 4 6 1 6l 7 2 1 fn5 0 ki f h f a7 1 gu 0 6b 0 46 4 1af 2 2 1 6 3 15 2 5 0 4m 1 fy 3 as ",
    "1 29 2 1z a 1e 3 3f 2 1i e 16 0 3 1 b 3 1a a 8 0 1q 2 11 d h 1 19 0 d 2 1d d 9 3 2 1 2l b ",
    "7 0 3 0 4e b m 3 1k 1 2 6 3 1 3 2 a 0 b 1 3 6 4 4 5d h o 0 2a j 6k 6 3 8 s 1 2b g 2z c 2u ",
    "e 75 e 6u 5 2 1 3 3 2 0 2 1 3y 6 3 6 4 0 t 9 15 6 2 3 9 0 a a 1b f ba 7 2 7 2b l 2 d 3f 5 ",
    "4 0 2 1 2 6 2 0 1v 4 2 1 2 4 9o 3 a 1 2 0 1d 6 4 4 45a 0 7 e asb 4 1o 6 t5 0 2 1i 8 3 2a ",
    "0 c 1 f58 1 3mq 19 3 m f3 4 4 5 9 7 3 6 v 3 45 2 1j0 1i 5 1d 9 0 f 0 n 4 2 e 11t 6 2 g 3 ",
    "6 2 1 2 4 2t 0 4h 6 ag 0 1q 3 e5 3 rl 6 32 6 241 4 gx7l 2n 3l 6n"]),
  (["fo", "format"],
    ["4t 0 11v 5 n 0 5d 0 1e 0 ap 1 29 0 2zw 0 1kw 1 r 4 1e 4 2 9 17yo 0 6y 2 3b6 0 g 0 6zn f ",
    "qxt 3 440 7 h407 0"]),
  (["hl", "hebrewletter"],
    ["15c q 5 3 1cff 0 2 9 2 c 2 4 2 0 2 1 2 1 2 9"]),
  (["ka", "katakana"],
    ["9ip 4 2u 1 4 2i 2 3 6p f 5t 1a 2 2f 14b3 1j ytv 3 2 6 2 1 2 0 80 2 1f 0 f 3"]),
  (["le", "aletter"],
    ["1t p 7 p 1c 0 b 0 5 0 6 m 2 u 2 db 7 x 35 4 2 1 3 3 2 0 7 0 2 2 2 0 2 j 2 2a 2 3u 9 4l 2 ",
    "11 3 3 2 0 2 14 2 0 2x 0 19 16 10 1 2 2q 2 0 g 1 8 1 b 2 3 0 h 0 2 t u 2g c 0 p w a 1 5 0 ",
    "6 l 5 0 a 0 4 0 o o 8 a 6 n 2 5 i 15 1n 1h 4 0 j 0 8 9 g f 5 7 3 1 3 l 2 6 2 0 4 3 4 0 h ",
    "0 e 1 2 2 f 1 b 0 9 5 5 1 3 l 2 6 2 1 2 1 2 1 w 3 2 0 k 2 h 8 2 2 2 l 2 6 2 1 2 4 4 0 j 0 ",
    "g 1 o 0 c 7 3 1 3 l 2 6 2 1 2 4 4 0 v 1 2 2 g 0 i 0 2 5 4 2 2 3 4 1 2 0 2 1 4 1 4 2 4 b n ",
    "0 1h 7 2 2 2 m 2 f 4 0 r 2 3 0 3 1 v 0 5 7 2 2 2 m 2 9 2 4 4 0 w 1 2 1 g 1 i 8 2 2 2 14 3 ",
    "0 h 0 6 2 9 2 p 5 6 h 4 n 2 8 2 0 3 6 8q 0 1s 7 2 z s 4 7o 11 2 0 6 0 3 16 2 98 2 3 3 6 2 ",
    "0 2 3 3 14 2 3 3 w 2 3 3 6 2 0 2 3 3 e 2 1k 2 3 3 1u 12 f h 2d 3 5 4 h7 3 g 2 p 6 22 4 a ",
    "8 h e i f h f c 2 2 4w 2g 8 4 3 x 2 0 6 1x b u 6a m 6n 1a i 7 1j t e 1 b 17 r z 16 2 b z ",
    "3 8 8 16 3 2 16 3 2 5 2 1 4 0 6 5b 1t 7p 3 5 3 11 3 5 3 7 2 0 2 0 2 0 2 u 3 1g 2 6 2 0 4 ",
    "2 2 6 4 3 3 5 5 c 6 2 2 6 39 0 e 0 h c 2u 0 5 0 3 9 2 0 4 4 7 0 2 0 2 0 2 3 2 a 3 3 6 4 5 ",
    "0 i 14 mm 1f 1ef 6c 7 3 4 1 d 11 2 0 6 0 3 1j 8 0 h m a 6 2 6 2 6 2 6 2 6 2 6 2 6 2 6 29 ",
    "0 d2 0 1i 1 5l 16 2 2l i v ls1 wc 1w 19 3 7g 4 f b 1 l 1a h u 3 27 p 5e 6 1 2 0 2 4 p f 2 ",
    "2 2 3 2 m u 1f f 1d 1r 5 4 0 2 1 c r b m q s 8 1a t 0 1d 14 o 2 2 7 45 a 8 2 d 5 3 5 3 5 ",
    "a 6 2 6 2 1l 7 36 u 8mb d m 5 1c 6x1 6 d 4 1l 2p y a2 j 1r 3 1h 15 b 39 4 2 3q 11 p 7 p ",
    "1y u 4 5 3 5 3 5 3 2 10 b 2 p 2 i 2 1 2 e 3 d z 3e 1y 1g 7g s 4 1c 1c v e t 6 11 b t 3 z ",
    "5 7 2 4 17 4d j z 5 z 5 13 9 1f d a 2 e 2 6 2 1 2 a 2 e 2 6 2 1 1w 8m a l b 7 p 5 2 15 2 ",
    "8 1y 5 3 0 2 17 2 1 4 0 3 m b m a u 1u i 2 1 b l b p 1z 1j 7 1 1t 0 g 3 2 2 2 s 17 s 4 s ",
    "10 7 2 r s 1h b l b i e h 33 20 1k 1e e 1e e z 9p 15 7 1 27 s b 0 9 l 17 h 1b k s m d 1g ",
    "1m 1 3 0 e 18 x o r z u 0 3 0 9 y 4 0 d 1b f 3 m 0 2 0 10 h 2 o k 1 1s 6 2 0 2 3 2 e 2 9 ",
    "8 1a 13 7 3 1 3 l 2 6 2 1 2 4 4 0 j 0 d 4 4f 1g j 3 l 2 v 1b l 1 2 0 55 1a 16 3 11 1b l 0 ",
    "1o 16 e 0 94 17 39 1r w 7 3 0 3 7 2 1 2 n g 0 2 0 2n 7 3 12 h 0 2 0 t 0 b 13 8 0 m 0 c 19 ",
    "k 0 j 20 7c 8 2 10 i 0 1e t 35 6 2 1 2 11 m 0 q 5 2 1 2 v f 0 94 i g 0 2 c 2 x 3h 0 28 pl ",
    "2v 32 i 5f 219 2o g tr i 5 33u g6 6nu fs 8 u i 26 i t j 1b h 3 w k 6 i j5 1r 3l 22 6 0 1v ",
    "c 1t 1 2 0 f19 2y 6 c 4 8 8 9 4mf 2c 2 1y 2 1 3 0 3 1 3 3 2 b 2 0 2 6 2 1s 2 3 3 7 2 6 2 ",
    "r 2 3 2 4 2 0 4 6 2 9f 3 o 2 o 2 u 2 o 2 u 2 o 2 u 2 o 2 u 2 o 2 7 1f9 u 7 5 7a 1p 43 18 ",
    "b 6 h 0 8y t j 17 dh r l1 6 2 3 2 1 2 e 2 5g 1o 1v 8 0 xh 3 2 q 2 1 2 0 3 0 2 9 2 3 2 0 2 ",
    "0 7 0 5 0 2 0 2 0 2 2 2 1 2 0 3 0 2 0 2 0 2 0 2 0 2 1 2 0 3 3 2 6 2 3 2 3 2 0 2 9 2 g 6 2 ",
    "2 4 2 g hh p 7 p 7 p"]),
  (["lf"],
    ["a 0"]),
  (["mb", "midnumlet"],
    ["1a 0 6ay 1 b 0 17vy 0 51 0 7 0"]),
  (["ml", "midletter"],
    ["1m 0 3h 0 k0 0 d4 0 45 0 56b 0 17u4 0 1u 0 5h 0"]),
  (["mn", "midnum"],
    ["18 0 f 0 n7 0 ej 0 3n 1 2n 0 b0 0 4ss 0 17t8 0 4 0 1o 0 4 0 54 0 f 0"]),
  (["nl", "newline"],
    ["b 1 3d 0 68z 1"]),
  (["nu", "numeric"],
    ["1c 9 17r 9 2 0 3p 9 5j 9 bh 9 3b 9 3b 9 3b 9 3b 9 3b 9 3b 9 3b 9 3b 9 3b 9 2p 9 3b 9 1z 9 ",
    "7r 9 1z 9 1fr 9 13 9 8d 9 3l 9 4n 9 7 9 53 9 2f 9 3r 9 7 9 r7r 9 iv 9 13 9 5j 9 n 9 2f 9 ",
    "bb 9 gev 9 13b 9 1on 9 ml 9 3l 9 1p 9 41 9 7r 9 9j 9 3b 9 af 9 2v 9 2v 9 br 9 2v 9 l3 9 ",
    "6v 9 1z 9 br 9 etj 9 2f 9 3r 9 lf9 1d 1tt 9 br 9 dz 9 uv 9 3o7 9"]),
  (["ri", "regionalindicator"],
    ["2qcm p"]),
  (["sq", "singlequote"],
    ["13 0"]),
  (["wsegspace"],
    ["w 0 4f4 0 1vk 6 2 2 2d 0 335 0"]),
  (["xx", "other"],
    ["0 9 5 h 2 0 2 3 2 3 2 0 2 0 d 4 r 3 2 0 r 9 2 z 2 1 2 6 2 0 2 1 2 4 o 0 w 0 dd 5 48 0 3 1 ",
    "7 5 6 0 2 0 l 0 2c 0 3w 0 4u 0 13 1 5 0 1a 5 1a 0 2 0 3 0 3 0 2 7 s 3 7 a 7 5 3 1 c 0 2 2 ",
    "23 0 3 0 2v 0 a 0 b 0 k 1 2 e 1p 1 2u d 1j 1 2 0 2 1 2 1 1b h t 3 c 4 p 0 7 0 3 5 5p 1 b ",
    "0 k 0 9 1 3 1 n 0 8 0 2 2 5 1 a 1 3 1 5 7 2 3 3 0 6 1 d 9 2 0 2 1 4 0 7 3 3 1 n 0 8 0 3 0 ",
    "3 0 3 1 2 0 6 3 3 1 4 2 2 6 5 0 2 6 h a 4 0 a 0 4 0 n 0 8 0 3 0 6 1 b 0 4 0 4 1 2 e 5 1 b ",
    "8 8 0 4 0 9 1 3 1 n 0 8 0 3 0 6 1 a 1 3 1 4 6 4 3 3 0 6 1 b 0 2 f 3 0 7 2 4 0 5 2 3 0 2 0 ",
    "3 2 3 2 4 2 d 3 6 2 4 0 5 1 2 5 2 d b f e 0 4 0 o 0 h 1 a 0 4 0 5 6 3 0 4 1 2 1 5 1 b f 5 ",
    "0 9 0 4 0 o 0 b 0 6 1 a 0 4 0 5 6 3 5 3 0 5 1 b 0 4 b e 0 4 0 1g 0 4 0 6 4 5 6 6 1 b 9 7 ",
    "0 4 0 j 2 p 0 a 0 2 1 8 2 2 3 7 0 2 0 9 5 b 1 3 1o 2 1 8 b 9 0 b 2e 2 1 a a 8 0 b 11 2 m ",
    "3 5 b a 2 0 2 0 2 3 b 0 11 3 l 0 j 0 11 8 2 2r l 0 b b 5 3 4 0 4 1 8 2 5 c d 0 g 1 13 0 2 ",
    "4 2 1 18 0 9a 0 5 1 8 0 2 0 5 1 16 0 5 1 y 0 5 1 8 0 2 0 5 1 g 0 1m 0 5 1 1w 1 4 v h f 2f ",
    "1 7 2 h9 1 19 4 24 2 c 6 n 8 n a l b e 0 4 0 3 1r x 8 2 1 b w g 5 2i 6 18 4 1z 9 w 0 d 3 ",
    "d 9 b 3j b 11 t 1k b 0 u 1 c 5 b l w 1c 26 2 b g a b 39 b 1l 7 b 2 1e 1 a 6 18 1 4 f 4 0 ",
    "14 4 ev 1 7 1 13 1 7 1 9 0 2 0 2 0 2 0 w 1 1i 0 8 0 2 2 4 0 8 2 5 1 7 3 e 4 4 0 8 2 8 0 4 ",
    "0 5 7 3 9 2 1 a e 3 2 2 e 2 9 7 0 b 0 2 c 2 f e 1e y g 2 3 2 1 b 0 2 2 6 5 2 0 2 0 2 0 5 ",
    "0 c 1 5 4 6 3 2 g 16 mk 1h 1ed 6e 5 a b 13 0 2 4 2 1 1l 6 2 e p 8 8 0 8 0 8 0 8 0 8 0 8 0 ",
    "8 0 8 0 x 1a 2 cv 2 3 2 z 7 0 6 4 3 2j 5 2 2k 0 5 4 18 0 2n g x 1b h 5r 1c 0 2h lgn we 1u ",
    "1b 1 7i 2 t j 1g 0 b 0 38 l 5g 4 3 0 2 0 6 n 1j 3 2 i 1h b 1z 9 b 5 p 2 2 0 1e 1 11 b u 2 ",
    "1u d c a 2 9 b 5 1k 8 f 1 b w 4 1d 2 0 4 1 3 4 3 0 2 t h 1 6 9 7 1 7 1 7 8 8 0 8 0 1n 5 ",
    "3g 0 3 1 b 5 8md b o 3 1e 6wz 8 b 6 4 d 0 e 0 6 0 2 0 3 0 3 0 31 w a4 h 1t 1 1j 13 d 3 i ",
    "1 3 a h 2 3 n 5 0 2 0 3 p 6 0 3s 1 2 6 2 3 2 0 2 0 d 4 r 3 2 0 r a 2i 2 7 1 7 1 7 1 4 r 4 ",
    "3 d 0 r 0 k 0 3 0 g 1 f x 3g 1w 1i 3r 2 3l u 2 1e e 2 u x c v 4 18 4 v 1 11 3 9 0 6 15 4f ",
    "1 b 5 11 3 11 3 15 7 1h b c 0 g 0 8 0 3 0 c 0 g 0 8 0 3 1u 8o 8 n 9 9 n 7 0 17 0 a 1w 7 1 ",
    "2 0 19 0 3 2 2 1 o 9 o 8 w 1s k 0 3 9 n 9 r 1x 1l 5 3 1r 5 0 3 4 9 0 4 0 u 1 4 3 2 v u 2 ",
    "u y 9 0 v o 1j 9 n 9 k c j 31 22 1i 1g c 1g c 15 7 b 91 17 0 3 2 3 22 x 9 2 7 y u n 15 m ",
    "q o 8 20 u h 8 1p 1 2 3 2 9 2 1 q 6 b 5 1i 0 b 3 5 7 11 1 2 8 1y 3 5 0 e 0 2 y j 0 12 5 5 ",
    "1p 8 0 2 0 5 0 g 0 b 6 1o 4 b 5 5 0 9 1 3 1 n 0 8 0 3 0 6 0 b 1 3 1 4 1 2 5 2 4 8 1 8 2 6 ",
    "3u 24 4 b 3 5 t 1z 0 2 7 b 4l 1j 1 a m 7 x 1u 2 2 a b 11 1m 6 b 2a g 3 b 5h 1o 2s 23 k 9 ",
    "1 2 1 9 0 3 0 v 0 3 1 a b b 1x 9 1 1b 1 9 0 3 q 1s 7 2 7 23 2 2 h 22 7a a 0 1a 0 a e b n ",
    "v 1 n 0 f 20 8 0 3 0 19 2 2 0 3 0 a 7 b 5 7 0 3 0 12 0 3 0 7 6 b 8l o 8 i 0 16 2 6 c b 2d ",
    "2 26 pn 2t 34 g 5h 217 2q e uv 33d g8 6ns fu 6 w 0 b 5 28 0 b 5 v 1 6 a 1k 8 5 b b 8 m 4 ",
    "k j3 1t 3j 24 3 1m 6 i 1r 3 0 3 a 3 cn1 5 0 8 0 3 0 2 7y 4 1d 2 d 5 23b 30 4 e 2 a 6 b 2 ",
    "3 0 5 3mj 1b 1 o f1 6 2 n 1 8 t 5 43 4 ca 2e 0 20 0 3 1 2 1 3 1 5 0 d 0 2 0 8 0 1u 0 5 1 ",
    "9 0 8 0 t 0 5 0 6 0 2 2 8 0 9h 1 q 0 q 0 w 0 q 0 w 0 q 0 w 0 q 0 w 0 q 0 9 1 1f e7 1k 3 ",
    "1f 7 2 d 2 l 6 0 g un w 5 7 5w 8 0 i 1 8 0 3 0 6 4 1r w 2 33 1a 2 f 1 b 3 2 8w w g 1n d1 ",
    "17 kl 8 0 5 0 3 0 g 0 5i a 8 14 25 3 b x1 5 0 s 0 3 0 2 1 2 0 b 0 5 0 2 0 2 5 2 3 2 0 2 0 ",
    "2 0 4 0 3 0 2 1 2 0 2 0 2 0 2 0 2 0 3 0 2 1 5 0 8 0 5 0 5 0 2 0 b 0 i 4 4 0 6 0 i hf r 5 ",
    "r 5 r 2j r e2 6 1kf b gvly 2 t 2p 3j 6p 47bj"]),
  (["zwj"],
    ["6bx 0"])]

def sentenceBreakTable : List (List String × List String) := [
  (["at", "aterm"],
    ["1a 0 6ba 0 17vy 0 58 0"]),
  (["cl", "close"],
    ["y 0 5 2 1e 0 2 0 u 0 2 0 1a 0 g 0 2v3 3 1ge 1 1vg 7 q 1 b 1 1j 1 f 1 hm 3 u 1 tt 5 8 d 28 ",
    "1 w 9 b8 l 1s 3 x 1 sj d f 1 3 9 p 0 j 7 bw 9 3 7 2 2 14in 1 60 1 t f 3 1 h 5 4q 1 1e 0 2 ",
    "0 u 0 2 0 2 1 2 1 1csz 2"]),
  (["cr"],
    ["d 0"]),
  (["ex", "extend"],
    ["lc 33 7o 6 7c 18 2 0 2 1 2 1 2 0 21 a 1d k h 0 2u 6 3 5 3 1 2 3 10 0 v q 2k a 1n 8 a 0 p ",
    "3 2 8 2 2 2 4 18 2 1p 7 17 n 2 w 1j 2 2 h 2 6 b 1 u 2 1l 0 2 6 3 1 3 2 a 0 b 1 r 0 3 2 1l ",
    "0 2 4 5 1 3 2 4 0 v 1 4 0 c 2 1l 0 2 7 2 2 2 2 l 1 n 5 2 2 1l 0 2 6 3 1 3 2 8 2 b 1 v 0 ",
    "1o 4 4 2 2 3 a 0 15 4 1k 0 2 6 2 2 2 3 8 1 c 1 u 2 1l 0 2 6 2 2 2 3 8 1 c 1 g 0 d 3 1k 1 ",
    "2 6 2 2 2 3 a 0 b 1 u 2 1z 0 5 5 2 0 2 7 j 1 1q 0 3 6 d 7 2r 0 3 8 c 6 22 1 s 0 2 0 2 0 5 ",
    "1 1e j 2 1 6 a 2 z a 0 2t j o 3 5 2 2 2 3 6 4 3 e b 2 0 b 3 jk 2 qb 3 t 2 u 1 v 1 1t v a ",
    "0 1a 2 2 0 3a 1 z 0 3b b 5 b 64 4 1m 9 2 s 3 0 1d u 1e 4 1c g 13 8 d 2 v c 1l d 1d j 49 2 ",
    "2 k 5 0 7 0 3 2 5j 1r el 1 5f w 2db 2 3y 0 2p v ff 5 2y 1 n9x 3 2 9 x 1 29 1 7l 0 4 0 5 0 ",
    "o 4 5 0 2c 1 1f h r h e 0 13 7 q c 19 3 1c d 11 0 1w d d 0 9 1 1a 2 1f 0 2 2 3 1 6 1 2 0 ",
    "16 4 6 1 6l 7 2 1 fn5 0 ki f h f a7 1 gu 0 6b 0 46 4 1af 2 2 1 6 3 15 2 5 0 4m 1 fy 3 as ",
    "1 29 2 1z a 1e 3 3f 2 1i e 16 0 3 1 b 3 1a a 8 0 1q 2 11 d h 1 19 0 d 2 1d d 9 3 2 1 2l b ",
    "7 0 3 0 4e b m 3 1k 1 2 6 3 1 3 2 a 0 b 1 3 6 4 4 5d h o 0 2a j 6k 6 3 8 s 1 2b g 2z c 2u ",
    "e 75 e 6u 5 2 1 3 3 2 0 2 1 3y 6 3 6 4 0 t 9 15 6 2 3 9 0 a a 1b f ba 7 2 7 2b l 2 d 3f 5 ",
    "4 0 2 1 2 6 2 0 1v 4 2 1 2 4 9o 3 a 1 2 0 1d 6 4 4 45a 0 7 e asb 4 1o 6 t5 0 2 1i 8 3 2a ",
    "0 c 1 f58 1 3mq 19 3 m f3 4 4 5 9 7 3 6 v 3 45 2 1j0 1i 5 1d 9 0 f 0 n 4 2 e 11t 6 2 g 3 ",
    "6 2 1 2 4 2t 0 4h 6 ag 0 1q 3 e5 3 rl 6 32 6 gzbq 2n 3l 6n"]),
  (["fo", "format"],
    ["4t 0 11v 5 n 0 5d 0 1e 0 ap 1 29 0 2zw 0 1kt 0 3 1 r 4 1e 4 2 9 17yo 0 6y 2 3b6 0 g 0 6zn ",
    "f qxt 3 440 7 h407 0"]),
  (["le", "oletter"],
    ["cb 0 5 3 5t 0 11 6 7 b r 0 2 0 3q 0 dh 0 3b q 5 4 19 16 10 1 2 2q 2 0 g 1 8 1 b 2 3 0 h 0 ",
    "2 t u 2g c 0 p w a 1 5 0 6 l 5 0 a 0 4 0 o o 8 a 6 n 2 5 i 15 1n 1h 4 0 j 0 8 9 g f 5 7 3 ",
    "1 3 l 2 6 2 0 4 3 4 0 h 0 e 1 2 2 f 1 b 0 9 5 5 1 3 l 2 6 2 1 2 1 2 1 w 3 2 0 k 2 h 8 2 2 ",
    "2 l 2 6 2 1 2 4 4 0 j 0 g 1 o 0 c 7 3 1 3 l 2 6 2 1 2 4 4 0 v 1 2 2 g 0 i 0 2 5 4 2 2 3 4 ",
    "1 2 0 2 1 4 1 4 2 4 b n 0 1h 7 2 2 2 m 2 f 4 0 r 2 3 0 3 1 v 0 5 7 2 2 2 m 2 9 2 4 4 0 w ",
    "1 2 1 g 1 i 8 2 2 2 14 3 0 h 0 6 2 9 2 p 5 6 h 4 n 2 8 2 0 3 6 1n 1b 2 1 d 6 1n 1 2 0 2 4 ",
    "2 n 2 0 2 9 2 1 a 0 3 4 2 0 m 3 x 0 1s 7 2 z s 4 38 16 l 0 h 5 5 3 4 0 4 1 8 2 5 c d 0 1u ",
    "16 3 97 2 3 3 6 2 0 2 3 3 14 2 3 3 w 2 3 3 6 2 0 2 3 3 e 2 1k 2 3 3 1u 12 f 36 h7 3 g 2 p ",
    "6 22 4 a 8 h e i f h f c 2 2 g 1f 10 0 5 0 1w 2g 8 4 3 x 2 0 6 1x b u 1e t 3 4 c 17 5 p ",
    "1j m a 1g 2b 0 2m 1a i 7 1j t e 1 b 17 r z 16 2 b z j 16 3 2 16 3 2 5 2 1 4 0 u3 3 20 2 3 ",
    "3 2aw 1j 8 0 h m a 6 2 6 2 6 2 6 2 6 2 6 2 6 2 6 29 0 d2 2 q 8 8 4 3 4 5 2d 7 2 2 2h 2 3 ",
    "6 16 2 2l i v 1d f e9 533 1t h3g 1w 19 3 7g 4 f b 1 1v 0 h 0 x 27 14 8 2x 0 7 0 2w 0 4 6 ",
    "2 2 2 3 2 m u 1f f 1d 1r 5 4 0 2 1 c r b m q s 8 1a t 0 h 4 2 9 b 4 2 14 o 2 2 7 l m 4 0 ",
    "4 1d 2 0 4 1 3 4 3 0 2 0 p 2 3 a 8 2 d 5 3 5 3 5 a 6 2 6 42 y u 8mb d m 5 1c 6it a5 3 2x ",
    "1w 0 2 9 2 c 2 4 2 0 2 1 2 1 2 2z y a2 j 1r 3 1h 15 b 39 4 2 3q 2y 1j 3 u 4 5 3 5 3 5 3 2 ",
    "10 b 2 p 2 i 2 1 2 e 3 d z 3e 1y 1g 7g s 4 1c 1c v e t 6 11 b t 3 z 5 7 2 4 3f 25 2r 13 9 ",
    "1f 4d 8m a l b 7 q 1 3i 5 3 0 2 17 2 1 4 0 3 m b m a u 1u i 2 1 b l b p 1z 1j 7 1 1t 0 g ",
    "3 2 2 2 s 17 s 4 s 10 7 2 r s 1h b l b i e h 33 20 54 z 9p 15 7 1 27 s b 0 9 l 17 h 1b k ",
    "s m d 1g 1m 1 3 0 e 18 x o r z u 0 3 0 9 y 4 0 d 1b f 3 m 0 2 0 10 h 2 o k 1 1s 6 2 0 2 3 ",
    "2 e 2 9 8 1a 13 7 3 1 3 l 2 6 2 1 2 4 4 0 j 0 d 4 4f 1g j 3 l 2 v 1b l 1 2 0 55 1a 16 3 ",
    "11 1b l 0 1o 16 e 0 20 q 12 6 56 17 5w 7 3 0 3 7 2 1 2 n g 0 2 0 2n 7 3 12 h 0 2 0 t 0 b ",
    "13 8 0 m 0 c 19 k 0 j 20 7c 8 2 10 i 0 1e t 35 6 2 1 2 11 m 0 q 5 2 1 2 v f 0 94 i g 0 2 ",
    "c 2 x 3h 0 28 pl 2v 32 i 5f 219 2o g tr i 5 33u g6 6nu fs 8 u i 26 i t j 1b h 3 w k 6 i ",
    "oh 22 6 0 1v c 1t 1 2 0 t 4qf 9 yd 17 8 6w8 3 2 6 2 1 2 82 g 0 u 2 3 0 f 3 9 az 1s5 2y 6 ",
    "c 4 8 8 9 6sx 0 dy 18 b 6 h 0 8y t j 17 dh r l1 6 2 3 2 1 2 e 2 5g 3r 0 xh 3 2 q 2 1 2 0 ",
    "3 0 2 9 2 3 2 0 2 0 7 0 5 0 2 0 2 0 2 2 2 1 2 0 3 0 2 0 2 0 2 0 2 0 2 1 2 0 3 3 2 6 2 3 2 ",
    "3 2 0 2 9 2 g 6 2 2 4 2 g 3et wyn x 37d 7 65 3 4g1 f 5rk 2e8 f1 15v 3t6 6 38f"]),
  (["lf"],
    ["a 0"]),
  (["lo", "lower"],
    ["2p p 1c 0 b 0 5 0 11 n 2 7 2 0 2 0 2 0 2 0 2 0 2 0 2 0 2 0 2 0 2 0 2 0 2 0 2 0 2 0 2 0 2 ",
    "0 2 0 2 0 2 0 2 0 2 0 2 0 2 0 2 0 2 0 2 0 2 0 2 1 2 0 2 0 2 0 2 0 2 0 2 0 2 0 2 1 2 0 2 0 ",
    "2 0 2 0 2 0 2 0 2 0 2 0 2 0 2 0 2 0 2 0 2 0 2 0 2 0 2 0 2 0 2 0 2 0 2 0 2 0 2 0 2 0 3 0 2 ",
    "0 2 2 3 0 2 0 3 0 4 1 5 0 3 0 4 2 3 0 3 0 2 0 2 0 3 0 2 1 2 0 3 0 4 0 2 0 3 1 3 2 7 0 3 0 ",
    "3 0 2 0 2 0 2 0 2 0 2 0 2 0 2 0 2 1 2 0 2 0 2 0 2 0 2 0 2 0 2 0 2 0 2 1 3 0 2 0 4 0 2 0 2 ",
    "0 2 0 2 0 2 0 2 0 2 0 2 0 2 0 2 0 2 0 2 0 2 0 2 0 2 0 2 0 2 0 2 0 2 0 2 0 2 0 2 0 2 0 2 0 ",
    "2 0 2 0 2 0 2 0 2 6 3 0 3 1 2 0 5 0 2 0 2 0 2 0 2 1w 2 z 8 1 v 4 3x 0 2 0 4 0 3 3 j 0 s y ",
    "2 1 4 2 2 0 2 0 2 0 2 0 2 0 2 0 2 0 2 0 2 0 2 0 2 0 2 4 2 0 3 0 3 1 1g 1b 2 0 2 0 2 0 2 0 ",
    "2 0 2 0 2 0 2 0 2 0 2 0 2 0 2 0 2 0 2 0 2 0 2 0 2 0 a 0 2 0 2 0 2 0 2 0 2 0 2 0 2 0 2 0 2 ",
    "0 2 0 2 0 2 0 2 0 2 0 2 0 2 0 2 0 2 0 2 0 2 0 2 0 2 0 2 0 2 0 2 0 2 0 3 0 2 0 2 0 2 0 2 0 ",
    "2 0 2 1 2 0 2 0 2 0 2 0 2 0 2 0 2 0 2 0 2 0 2 0 2 0 2 0 2 0 2 0 2 0 2 0 2 0 2 0 2 0 2 0 2 ",
    "0 2 0 2 0 2 0 2 0 2 0 2 0 2 0 2 0 2 0 2 0 2 0 2 0 2 0 2 0 2 0 2 0 2 0 2 0 2 0 2 0 2 0 2 0 ",
    "2 0 2 0 2 0 2 0 2 0 1d 14 29g 0 l8 5 1oj 8 3c 5b 1u 0 2 0 2 0 2 0 2 0 2 0 2 0 2 0 2 0 2 0 ",
    "2 0 2 0 2 0 2 0 2 0 2 0 2 0 2 0 2 0 2 0 2 0 2 0 2 0 2 0 2 0 2 0 2 0 2 0 2 0 2 0 2 0 2 0 2 ",
    "0 2 0 2 0 2 0 2 0 2 0 2 0 2 0 2 0 2 0 2 0 2 0 2 0 2 0 2 0 2 0 2 0 2 0 2 0 2 0 2 0 2 0 2 0 ",
    "2 0 2 0 2 0 2 0 2 0 2 0 2 0 2 0 2 0 2 0 2 0 2 0 2 0 2 0 2 0 2 0 2 0 2 0 2 0 2 8 2 0 2 0 2 ",
    "0 2 0 2 0 2 0 2 0 2 0 2 0 2 0 2 0 2 0 2 0 2 0 2 0 2 0 2 0 2 0 2 0 2 0 2 0 2 0 2 0 2 0 2 0 ",
    "2 0 2 0 2 0 2 0 2 0 2 0 2 0 2 0 2 0 2 0 2 0 2 0 2 0 2 0 2 0 2 0 2 0 2 0 2 0 2 0 2 0 2 0 2 ",
    "0 2 8 9 5 b 7 9 7 9 5 b 7 9 7 9 d 3 7 9 7 9 7 9 4 2 1 7 0 4 2 2 1 9 3 3 1 9 7 b 2 2 1 3e ",
    "0 e 0 h c 32 0 4 1 4 0 s 0 5 0 5 0 3 1 9 3 5 0 y f 5 0 ng p 1fr 1b 2 0 4 1 2 0 2 0 2 0 5 ",
    "0 2 1 2 7 4 0 2 0 2 0 2 0 2 0 2 0 2 0 2 0 2 0 2 0 2 0 2 0 2 0 2 0 2 0 2 0 2 0 2 0 2 0 2 0 ",
    "2 0 2 0 2 0 2 0 2 0 2 0 2 0 2 0 2 0 2 0 2 0 2 0 2 0 2 0 2 0 2 0 2 0 2 0 2 0 2 0 2 0 2 0 2 ",
    "0 2 0 2 0 2 0 2 0 2 0 2 0 2 1 8 0 2 0 5 0 d 11 2 0 6 0 nx0 0 2 0 2 0 2 0 2 0 2 0 2 0 2 0 ",
    "2 0 2 0 2 0 2 0 2 0 2 0 2 0 2 0 2 0 2 0 2 0 2 0 2 0 2 0 2 0 k 0 2 0 2 0 2 0 2 0 2 0 2 0 2 ",
    "0 2 0 2 0 2 0 2 0 2 0 2 2 3q 0 2 0 2 0 2 0 2 0 2 0 2 2 2 0 2 0 2 0 2 0 2 0 2 0 2 0 2 0 2 ",
    "0 2 0 2 0 2 0 2 0 2 0 2 0 2 0 2 0 2 0 2 0 2 0 2 0 2 0 2 0 2 0 2 0 2 0 2 0 2 0 2 0 2 0 2 9 ",
    "2 0 2 0 3 0 2 0 2 0 2 0 2 0 5 0 2 0 3 0 2 2 2 0 2 0 2 0 2 0 2 0 2 0 2 0 2 0 2 0 2 0 6 0 6 ",
    "0 2 0 2 0 2 0 2 0 2 0 2 0 2 0 5 0 2 0 7 0 2 0 2 0 2 0 2 0 p 2 2 0 2 2 mu 16 2 d 7 27 fnl ",
    "6 d 4 tm p y6 13 3t z 4c a 2 e 2 6 2 1 ck 0 3 2 2 15 2 8 zq 1e 2by v gw1 v k2j p r 6 2 h ",
    "r p r 3 2 0 2 6 2 a r p r p r p r p r p r p r p r p r r t o 2 5 r o 2 5 r o 2 5 r o 2 5 r ",
    "o 2 5 2 0 1f9 9 2 j 7 5 7a 1p 1px x"]),
  (["nu", "numeric"],
    ["1c 9 17r 9 2 1 3o 9 5j 9 bh 9 3b 9 3b 9 3b 9 3b 9 3b 9 3b 9 3b 9 3b 9 3b 9 2p 9 3b 9 1z 9 ",
    "7r 9 1z 9 1fr 9 13 9 8d 9 3l 9 4n 9 7 9 53 9 2f 9 3r 9 7 9 r7r 9 iv 9 13 9 5j 9 n 9 2f 9 ",
    "bb 9 gev 9 13b 9 1on 9 ml 9 3l 9 1p 9 41 9 7r 9 9j 9 3b 9 af 9 2v 9 2v 9 br 9 2v 9 l3 9 ",
    "6v 9 1z 9 br 9 etj 9 2f 9 3r 9 lf9 1d 1tt 9 br 9 dz 9 uv 9 3o7 9"]),
  (["sc", "scontinue"],
    ["18 1 d 0 10j 0 4v 1 dn 0 362 0 6 0 1l7 1 359 0 14pb 1 2 0 u 1 u 1 4 0 3 0 b 0 4p 1 d 0 22 ",
    "0"]),
  (["se", "sep"],
    ["3p 0 68z 1"]),
  (["sp"],
    ["9 0 2 1 k 0 3k 0 4bk 0 1vk a 11 0 1c 0 335 0"]),
  (["st", "sterm"],
    ["x 0 u 0 11m 0 44 2 51 0 18 2 6v 0 1q 0 2 0 4 1 86 1 1d1 1 lz 0 5 1 li 0 5j 1 5p 0 6 0 8r ",
    "1 9v 3 4v 1 3 1 u 1 59 1 1u 1 ql 1 a 2 2qt 0 e 0 n 1 by 0 n3x 0 7j 1 6c 0 4 0 an 1 2f 1 ",
    "2o 0 49 1 44 2 41 1 6y 0 ga3 1 4q 0 u 0 1u 0 25x 1 zi 4 19 3 5a 1 3a 3 3k 2 3m 1 7 0 h 1 ",
    "2h 1 2 1 31 0 bm 1 ae 1 6 e 2y 1 6y 2 ee 0 2 0 70 1 2g 1 bp 1 j9 1 23 1 eui 1 3q 0 1u 1 c ",
    "0 no 0 fev 0 5wp 0"]),
  (["up", "upper"],
    ["1t p 2u m 2 6 y 0 2 0 2 0 2 0 2 0 2 0 2 0 2 0 2 0 2 0 2 0 2 0 2 0 2 0 2 0 2 0 2 0 2 0 2 0 ",
    "2 0 2 0 2 0 2 0 2 0 2 0 2 0 2 0 2 0 3 0 2 0 2 0 2 0 2 0 2 0 2 0 2 0 3 0 2 0 2 0 2 0 2 0 2 ",
    "0 2 0 2 0 2 0 2 0 2 0 2 0 2 0 2 0 2 0 2 0 2 0 2 0 2 0 2 0 2 0 2 0 2 0 2 1 2 0 2 0 4 1 2 0 ",
    "2 1 2 2 3 3 2 1 2 2 4 1 2 1 2 0 2 0 2 1 2 0 3 0 2 1 2 2 2 0 2 1 4 0 8 1 2 1 2 1 2 0 2 0 2 ",
    "0 2 0 2 0 2 0 2 0 2 0 3 0 2 0 2 0 2 0 2 0 2 0 2 0 2 0 2 0 3 1 2 0 2 2 2 0 2 0 2 0 2 0 2 0 ",
    "2 0 2 0 2 0 2 0 2 0 2 0 2 0 2 0 2 0 2 0 2 0 2 0 2 0 2 0 2 0 2 0 2 0 2 0 2 0 2 0 2 0 2 0 2 ",
    "0 2 0 8 1 2 1 3 0 2 3 2 0 2 0 2 0 2 0 82 0 2 0 4 0 9 0 7 0 2 2 2 0 2 1 2 g 2 8 10 0 3 2 4 ",
    "0 2 0 2 0 2 0 2 0 2 0 2 0 2 0 2 0 2 0 2 0 2 0 6 0 3 0 2 1 3 1e 1d 0 2 0 2 0 2 0 2 0 2 0 2 ",
    "0 2 0 2 0 2 0 2 0 2 0 2 0 2 0 2 0 2 0 2 0 a 0 2 0 2 0 2 0 2 0 2 0 2 0 2 0 2 0 2 0 2 0 2 0 ",
    "2 0 2 0 2 0 2 0 2 0 2 0 2 0 2 0 2 0 2 0 2 0 2 0 2 0 2 0 2 0 2 1 2 0 2 0 2 0 2 0 2 0 2 0 3 ",
    "0 2 0 2 0 2 0 2 0 2 0 2 0 2 0 2 0 2 0 2 0 2 0 2 0 2 0 2 0 2 0 2 0 2 0 2 0 2 0 2 0 2 0 2 0 ",
    "2 0 2 0 2 0 2 0 2 0 2 0 2 0 2 0 2 0 2 0 2 0 2 0 2 0 2 0 2 0 2 0 2 0 2 0 2 0 2 0 2 0 2 0 2 ",
    "0 2 0 2 0 3 11 28a 11 2 0 6 0 k3 2d 1zf 0 2 0 2 0 2 0 2 0 2 0 2 0 2 0 2 0 2 0 2 0 2 0 2 0 ",
    "2 0 2 0 2 0 2 0 2 0 2 0 2 0 2 0 2 0 2 0 2 0 2 0 2 0 2 0 2 0 2 0 2 0 2 0 2 0 2 0 2 0 2 0 2 ",
    "0 2 0 2 0 2 0 2 0 2 0 2 0 2 0 2 0 2 0 2 0 2 0 2 0 2 0 2 0 2 0 2 0 2 0 2 0 2 0 2 0 2 0 2 0 ",
    "2 0 2 0 2 0 2 0 2 0 2 0 2 0 2 0 2 0 2 0 2 0 2 0 2 0 2 0 2 0 2 0 2 0 a 0 2 0 2 0 2 0 2 0 2 ",
    "0 2 0 2 0 2 0 2 0 2 0 2 0 2 0 2 0 2 0 2 0 2 0 2 0 2 0 2 0 2 0 2 0 2 0 2 0 2 0 2 0 2 0 2 0 ",
    "2 0 2 0 2 0 2 0 2 0 2 0 2 0 2 0 2 0 2 0 2 0 2 0 2 0 2 0 2 0 2 0 2 0 2 0 2 0 2 0 2 0 a 7 9 ",
    "5 b 7 9 7 9 5 c 0 2 0 2 0 2 0 9 7 p 7 9 7 9 7 9 4 c 4 c 3 d 4 c 4 7a 0 5 0 4 2 3 2 3 0 4 ",
    "4 7 0 2 0 2 0 2 3 3 3 b 1 6 0 r f k 0 mr p 1f5 1b 1d 0 2 2 3 0 2 0 2 0 2 3 2 0 3 0 9 2 2 ",
    "0 2 0 2 0 2 0 2 0 2 0 2 0 2 0 2 0 2 0 2 0 2 0 2 0 2 0 2 0 2 0 2 0 2 0 2 0 2 0 2 0 2 0 2 0 ",
    "2 0 2 0 2 0 2 0 2 0 2 0 2 0 2 0 2 0 2 0 2 0 2 0 2 0 2 0 2 0 2 0 2 0 2 0 2 0 2 0 2 0 2 0 2 ",
    "0 2 0 2 0 2 0 9 0 2 0 5 0 nym 0 2 0 2 0 2 0 2 0 2 0 2 0 2 0 2 0 2 0 2 0 2 0 2 0 2 0 2 0 2 ",
    "0 2 0 2 0 2 0 2 0 2 0 2 0 2 0 k 0 2 0 2 0 2 0 2 0 2 0 2 0 2 0 2 0 2 0 2 0 2 0 2 0 2 0 3s ",
    "0 2 0 2 0 2 0 2 0 2 0 2 0 4 0 2 0 2 0 2 0 2 0 2 0 2 0 2 0 2 0 2 0 2 0 2 0 2 0 2 0 2 0 2 0 ",
    "2 0 2 0 2 0 2 0 2 0 2 0 2 0 2 0 2 0 2 0 2 0 2 0 2 0 2 0 2 0 b 0 2 0 2 1 2 0 2 0 2 0 2 0 5 ",
    "0 2 0 3 0 2 0 4 0 2 0 2 0 2 0 2 0 2 0 2 0 2 0 2 0 2 0 2 4 2 4 2 0 2 0 2 0 2 0 2 0 2 0 2 0 ",
    "2 3 2 0 7 0 6 0 2 0 t 0 h7w p xy 13 3t z 4d a 2 e 2 6 2 1 1d7 1e 2cu v gw1 v k2p p r p r ",
    "p r 0 2 1 3 0 3 1 3 3 2 7 r p r 1 2 3 3 7 2 6 s 1 2 3 2 4 2 0 4 6 s p r p r p r p r p r p ",
    "v o y o y o y o y o y 0 3ee x 1lb p 7 p 7 p"]),
  (["xx", "other"],
    ["0 8 6 h 4 3 4 1 4 0 c 3 2 0 s 0 2 2 s 0 2 6 2 p 2 8 3 0 2 6 2 3 3 3 o 0 w 0 cr 3 d d 6 6 ",
    "2 0 2 g 3a 0 3 1 5 0 2 5 2 0 4 0 2 0 l 0 2c 0 3w 0 4u 0 13 1 2 2 2 1 17 6 1a 0 2 0 3 0 3 ",
    "0 2 7 s 3 6 b 7 5 3 1 c 0 27 0 3 0 35 0 b 0 k 1 5 b 1p 1 2u d 1j 1 4 1 2 1 1b 8 2 0 2 2 3 ",
    "0 t 3 c 4 p 0 7 0 3 5 61 0 k 0 9 1 3 1 n 0 8 0 2 2 5 1 a 1 3 1 5 7 2 3 3 0 6 1 d 9 2 0 2 ",
    "1 4 0 7 3 3 1 n 0 8 0 3 0 3 0 3 1 2 0 6 3 3 1 4 2 2 6 5 0 2 6 h a 4 0 a 0 4 0 n 0 8 0 3 0 ",
    "6 1 b 0 4 0 4 1 2 e 5 1 b 8 8 0 4 0 9 1 3 1 n 0 8 0 3 0 6 1 a 1 3 1 4 6 4 3 3 0 6 1 b 0 2 ",
    "f 3 0 7 2 4 0 5 2 3 0 2 0 3 2 3 2 4 2 d 3 6 2 4 0 5 1 2 5 2 d b f e 0 4 0 o 0 h 1 a 0 4 0 ",
    "5 6 3 0 4 1 2 1 5 1 b f 5 0 9 0 4 0 o 0 b 0 6 1 a 0 4 0 5 6 3 5 3 0 5 1 b 0 4 b e 0 4 0 ",
    "1g 0 4 0 6 4 5 6 6 1 b 9 7 0 4 0 j 2 p 0 a 0 2 1 8 2 2 3 7 0 2 0 9 5 b 1 3 c 1n 4 g 0 b ",
    "12 3 0 2 0 6 0 p 0 2 0 o 1 6 0 2 0 8 0 b 1 5 v 2 m 3 5 b a 2 0 2 0 g 0 11 3 l 0 j 0 11 8 ",
    "2 1k 25 3 27 1 13 0 2 4 2 1 18 0 9a 0 5 1 8 0 2 0 5 1 16 0 5 1 y 0 5 1 8 0 2 0 5 1 g 0 1m ",
    "0 5 1 1w 1 4 1 2 3 3 m h f 2f 1 7 2 h9 0 1c 2 24 2 c 6 n 8 p 8 l b e 0 4 0 3 b 2d 2 2 3 3 ",
    "1 b n 3 3 3 0 g 5 2i 6 18 4 1z 9 w 0 d 3 d 7 17 1 6 a 19 3 r 5 b 11 t 3 1s 0 u 1 c 5 b c ",
    "6 3 w 1c 26 2 d 1 3 a a 8 3 0 39 b 1l 2 3 2 b 2 1p 6 18 1 4 f 4 0 14 4 ev 1 7 1 13 1 7 1 ",
    "9 0 2 0 2 0 2 0 w 1 1i 0 8 0 2 2 4 0 8 2 5 1 7 3 e 4 4 0 8 2 h 2 3 2 9 3 2 2 9 8 3 0 3 6 ",
    "6 k 7 0 b 0 2 a 4 c 3 0 e 1e y g 2 3 2 1 b 0 2 2 6 5 2 0 2 0 2 0 5 0 c 1 5 4 6 3 2 g 16 ",
    "am 5 s 3 ay 1h hc 7 6 f 26 3 u b b6 n 1q 5 v 3 e9 6e 5 a b 13 0 2 4 2 1 1l 6 2 e p 8 8 0 ",
    "8 0 8 0 8 0 8 0 8 0 8 0 8 0 1b d 3 1 b 3 3 b 2 4 2 f b bm 4 1 e 1 9 0 4 0 g 0 6 1 6 3 2f ",
    "1 3 1 4 0 2j 0 5 4 18 0 2n g x 1b h e7 535 1r h3i 1u 1b 0 7j 0 v j 1g 0 b 0 38 0 2 2 2 u ",
    "a 1 2w 1 1t 4 3 0 2 0 6 n 1j 3 2 i 1h 1 3 7 1z 7 d 5 p 2 2 0 1e 0 12 b u 2 1u 6 3 4 c 5 w ",
    "0 1k 8 f 1 b 2 r 2 22 n 4 1 o 9 7 1 7 1 7 8 8 0 8 0 18 0 f 5 3j 1 b 5 8md b o 3 1e 6ir a7 ",
    "1 2z 11 8 b 6 4 d 0 e 0 6 0 2 0 3 0 3 0 31 w a6 f 1t 1 1j 13 d 3 j 0 2 2 3 6 h 0 3 1 h 1 ",
    "3 6 4 1 b 3 2 b 6 0 3s 1 2 0 2 5 3 1 4 0 c 3 2 0 s 0 2 2 s 0 2 0 7 0 2i 2 7 1 7 1 7 1 4 r ",
    "4 3 d 0 r 0 k 0 3 0 g 1 f x 3g 1w 1i 3r 2 3l u 2 1e e 2 u x c v 4 18 4 v 1 11 3 9 0 6 15 ",
    "4f 1 b 5 11 3 11 3 15 7 1h b c 0 g 0 8 0 3 0 c 0 g 0 8 0 3 1u 8o 8 n 9 9 n 7 0 17 0 a 1w ",
    "7 1 2 0 19 0 3 2 2 1 o 9 o 8 w 1s k 0 3 9 n 9 r 1x 1l 5 3 1r 5 0 3 4 9 0 4 0 u 1 4 3 2 l ",
    "3 7 u 2 u y 9 0 v o 1j 9 n 9 k c j 31 22 1i 1g c 1g c 15 7 b 91 17 0 3 2 3 22 x 9 2 7 y 3 ",
    "6 l r 11 m q o 8 22 s h 8 1p 1 7 9 2 1 q 6 b 5 1i 0 b 0 8 7 11 1 2 8 20 1 j 0 2 0 3 v j 0 ",
    "14 0 3 0 5 1p 8 0 2 0 5 0 g 0 c 5 1o 4 b 5 5 0 9 1 3 1 n 0 8 0 3 0 6 0 b 1 3 1 4 1 2 5 2 ",
    "4 8 1 8 2 6 3u 26 2 b 3 5 t 1z 0 2 7 b 4l 1j 1 a 0 3 4 m x 1w 0 2 a b 11 1m 6 b 1h s 1 g ",
    "3 b 1 4 0 8 54 1o 2s 23 k 9 1 2 1 9 0 3 0 v 0 3 1 b 0 2 8 b 1x 9 1 1b 1 9 0 3 q 1s 2 3 2 ",
    "2 7 23 0 4 h 22 7a a 0 1a 0 c c b n v 1 n 0 f 20 8 0 3 0 19 2 2 0 3 0 a 7 b 5 7 0 3 0 12 ",
    "0 3 0 7 6 b 8l q 6 i 0 16 2 8 a b 2d 2 26 pn 2t 34 g 5h 217 2q e uv 33d g8 6ns fu 6 w 0 b ",
    "3 2a 0 b 5 v 1 7 9 1m 6 6 a b 8 m 4 k j3 1t n 2 2u 24 3 1m 6 i 1r 3 0 3 a 3 d 4qh 7 yf 15 ",
    "a 6w6 5 0 8 0 3 0 84 e 2 s 4 1 2 d 5 7 b1 1s3 30 4 e 2 a 6 b 2 8 3mj 1b 1 o f1 6 2 n 1 8 ",
    "t 5 43 4 ca 2e 0 20 0 3 1 2 1 3 1 5 0 d 0 2 0 8 0 1u 0 5 1 9 0 8 0 t 0 5 0 6 0 2 2 8 0 9h ",
    "1 q 0 q 0 w 0 q 0 w 0 q 0 w 0 q 0 w 0 q 0 9 1 1f e7 1k 3 1f 7 2 d 2 2 2 h 6 0 g un w 5 7 ",
    "5w 8 0 i 1 8 0 3 0 6 4 1r w 2 33 1a 2 f 1 b 3 2 8w w g 1n d1 17 kl 8 0 5 0 3 0 g 0 5i a 8 ",
    "14 25 3 b x1 5 0 s 0 3 0 2 1 2 0 b 0 5 0 2 0 2 5 2 3 2 0 2 0 2 0 4 0 3 0 2 1 2 0 2 0 2 0 ",
    "2 0 2 0 3 0 2 1 5 0 8 0 5 0 5 0 2 0 b 0 i 4 4 0 6 0 i hf r 5 r 5 r yz 4 12u b sl wyp v ",
    "37f 5 67 1 4g3 d 5rm 2e6 f3 15t 3t8 4 38h f974 2 t 2p 3j 6p 47bj"])]

end TabSearch.Unicode
