import TabSearch.Unicode.RangeSet

namespace TabSearch.Unicode

def ageTable : List (List String × List String) := [
  (["1.1", "v11"],
    ["0 dx 5 t 1l 2g 8 1a 2 9 n 1x r 1 j 1 5 0 4 0 6 6 2 0 2 j 2 17 2 6 4 0 2 0 2 0 2 0 2 h e b ",
    "2 1t 2 b 2 14 a 1g 3 1 3 1 4 r 3 7 3 1 1k 11 3 6 2 12 2 0 13 9 2 8 d q 6 4 o 0 f 0 4 0 2 ",
    "p 6 i e d 3 1z 3 4 2 e 2 t 3 9 eg 2 2 1g 3 h 3 4 4 o h 2 2 7 3 1 3 l 2 6 2 0 4 3 3 0 2 6 ",
    "3 1 3 2 a 0 5 1 2 4 3 k 8 0 3 5 5 1 3 l 2 6 2 1 2 1 2 1 3 0 2 4 5 1 3 2 c 3 2 0 8 e d 2 2 ",
    "6 2 0 2 2 2 l 2 6 2 1 2 4 3 9 2 2 2 2 3 0 g 0 6 9 i 2 2 7 3 1 3 l 2 6 2 1 3 3 3 7 4 1 3 2 ",
    "9 1 5 1 2 2 5 a i 1 2 5 4 2 2 3 4 1 2 0 2 1 4 1 4 2 4 7 2 2 5 4 4 2 2 3 a 0 g b f 2 2 7 2 ",
    "2 2 m 2 9 2 4 5 6 2 2 2 3 8 1 a 1 5 9 j 1 2 7 2 2 2 m 2 9 2 4 5 6 2 2 2 3 8 1 8 0 2 1 5 9 ",
    "j 1 2 7 2 2 2 m 2 f 5 5 3 2 2 3 a 0 9 1 5 9 42 1l 5 s 12 1 2 0 3 1 2 0 3 0 7 3 2 6 2 2 2 ",
    "0 2 0 3 1 2 c 2 2 3 4 2 0 2 5 3 9 3 1 cj 11 b 12 5 0 5 2h 6 1v 6 29 2dj 4a 6 2h 7 l 3 5 3 ",
    "11 3 5 3 7 2 0 2 0 2 0 2 u 3 1g 2 e 2 d 3 5 2 i 3 2 2 8 2 1a 2 m 10 6 4 q i a 12 h v 1k r ",
    "1b e 2i m 6p f 0 2 3c 3q 10 s a m 3u m 45 b 27 h j 7 2d 42 3 2 3 3 r 2 y 2 0 2 3 4 0 2 6 ",
    "3 6 f u 4 n 2 d 1mq 1j 8 0 2 2b 5 5 3 2l 7 13 5 2l 2 f 2p s 4 z t r 4 1d g b 5 1a 2 3a 5 ",
    "2q 3 u 54y g4l cpn 565 5v 6 d 4 7 o 2 4 2 0 2 1 2 1 2 2z y a4 h 1r 3 1h 15 b 11 3 d k 5 9 ",
    "2 i 2 3 5 2 2 0 2 3q 3 0 2 2l 3 2l 4 5 3 5 3 5 3 2 4 6 2 6 f 2"]),
  (["2.0", "v20"],
    ["13l g 2 c l 0 1to 1z 2 w 8 q 5 5 2 0 2 k 4 6 2 0 2xu 0 eo 0 rit 8mb 2l 1kv 1kvz 1 1ekf 1 ",
    "1ekf 1 1ekf 1 1ekf 1 1ekf 1 1ekf 1 1ekf 1 1ekf 1 1ekf 1 1ekf 1 1ekf 1 1ekf 1 1ekf 2t4x"]),
  (["2.1", "v21"],
    ["6gc 0 1840 0"]),
  (["3.0", "v30"],
    ["dy 3 v 7 3 h 3a 4 1e 0 b 4 2g 8 k 0 39 0 4 0 2 0 2 0 2 0 v 0 d 0 1v 0 d 0 17 1 3 3 2l 1 ",
    "4d 0 5l 2 2r 1 6 0 g 0 17 4 2 d 2 t 4 q 1i 1c 15e 1 2 h 4 n 2 8 2 0 3 6 4 0 5 5 2 0 2 7 j ",
    "2 ae 0 18 0 o 2 8 0 2 2 2 e 3 0 1d x 2 4 2 1 2 6 4 3 7 p br 6 2 1q 2 0 2 3 3 6 2 0 2 3 3 ",
    "12 2 0 2 3 3 u 2 0 2 3 3 6 2 0 2 3 3 6 2 6 2 m 2 u 2 0 2 3 3 6 2 12 2 i 7 r 10 2c d hh a ",
    "s 4 28 40 2k 4 9 n e 2 9 7 2f 9 15 1hi 0 p 5 2o 2 1f 1 2e 1 21 0 2w 8 7i 0 3e 0 2 t 3v 1 ",
    "cq 7 y 0 2f 1 b3 73 135 p 2 2g d 5x r b 1p 2 4 0 9u n g9 52t g97 wc 4 h 3 f 2 b 2 2 2 0 ",
    "h1z 0 yk 2"]),
  (["3.1", "v31"],
    ["s4 1 1dcr v 101 u 2 3 d q 52 11 3 11 148j 6t b 12 4 4z f7 2c 2 1y 2 1 3 0 3 1 3 3 2 b 2 0 ",
    "2 3 2 1 2 1s 2 3 3 7 2 6 2 r 2 3 2 4 2 0 4 6 2 9d 5 81 5 1d 7wh wye g16 f1 fhes 0 v 2n"]),
  (["3.2", "v32"],
    ["f4 0 8f 0 k c 2x 1 t 0 44 1 1m 1 3 1 3 1 1e f 9r 1 8y 0 1ty 1 16w c 2 6 c m a j d c 2 2 2 ",
    "1 1qs 0 7 4 5 0 8 4 e 0 1r 1 1f 6 2b e 4p b 6r d 3h 0 v 1f 7x j 48 9 2h 7 n 1 2j b 3 9 67 ",
    "d 2j r 5 f 75 e7 118 2 2g 1 9 1 2n 0 6p f 2a e 2a e mhv 1 h 0 d 0 4 0 gvf 1m pe 0 4 f 1i ",
    "1 19 0 6k 1"]),
  (["4.0", "v40"],
    ["f5 0 j 2 3c 1 1s g 29 7 6 2 48 4 ed 3 a 8 1t 2 46 1 g 0 1a 2 u 2 c5 0 55 0 1w 0 2 0 3t 0 ",
    "2d 2 e 0 1w 0 1o 0 3m 7 5e 1 274 0 j 9 7b s 4 b 5 b 5 0 4 15 3 4 30 v ld 2z ko 1 6f 0 ic ",
    "1 8f 0 7p 1 39 7 f 1 v3 d 1e8 1 1e 0 18 1 27 3 4o 3 2s 1 w 0 535 1r yri 0 22 1 c8 b 2 p 2 ",
    "i 2 1 2 e 3 d z 3e 6 2 5 18 4 8 g1 t 2 0 3r 1 13 27 3 9 nr 5 3 0 2 17 2 1 4 0 3 0 141t 2e ",
    "a3 0 h3jz 6n"]),
  (["4.1", "v41"],
    ["fr a 7r 4 4g 3 6v 1 4r 0 z 2 1w 0 j 0 1n 5 6q t eo 0 29 0 dk 0 1c 0 ru 1 88 1 2 0 7f 0 1s ",
    "0 1s 0 14 0 w 0 w 0 w 0 g 0 14 0 o 1 w p 15z 15 7 p 7 9 5 1 x r 3 1 nh 2f ia 1 2 6 1e 4 u ",
    "3 1i 0 29 0 g 0 hx a fx 0 2u 1 j a 6 f 7j 6 nc 5 6l 1a 2 1a y 2y f 18 b 1h a 0 h m a 6 2 ",
    "6 2 6 2 6 2 6 2 6 2 6 2 6 y n 5 1 pv f 4v 0 lk8 l 1fp m 6i 17 g91 2x mv 9 mf 22 eu z 5 d ",
    "17v 3 2 1 6 7 2 2 2 q 5 2 5 8 9 8 13fs 1x v3 1"]),
  (["5.0", "v50"],
    ["g2 d 8c 2 9e 0 17 5 h 3 4n 0 ee 1m ap 1 2 1 o3 1 e 1 2ry 23 5 18 g8 6 1g 1 kt 3 2m 1 1i 0 ",
    "go b jv 0 7p 3 ne 6 6 3 8t c 8 3 o80 3 6 1 7z 1j j2h p 6 0 4ip oe 42 2q e 3 yjx h ux 1"]),
  (["5.1", "v51"],
    ["og 3 3 1 2g 0 54 0 3x f 6b 4 c 4 x 4 8f h du 1 67 0 10 0 5r 0 u 1 31 0 31 0 r 1 9 1 l 7 ",
    "5a 0 7 0 u 1 d 5 4 6 do 1 2q 0 4 2 26 0 6 0 3 0 8 2 5 5 r 1r 5 1 1l7 0 k6 16 4 b 1z 1j 4 ",
    "e 4 1e 98 r 52 3 2j 5 9x 0 3w 0 2n 0 1i 3 105 0 m 9 4 3 7d 0 w 3 mk 4 5 14 4 4 7t 2 2 2 5 ",
    "5 9v v p 3 3 i l9 0 4j j lp5 7 119 8b l v 3 h 9 r 3o 4 3 2y 33 4 3l 1w a b 13 2b c 0 4h ",
    "1i a d 3 9 3 3 gjp 2 oa b 1h 19 3n s 4 1c 18w p 6 0 13hm 0 63b 17 5 2r"]),
  (["5.2", "v52"],
    ["10k 1 kb 19 3 e 5e 0 26 0 7 0 10 1 3l 0 15m 3 5e 3 59 4 1x 4 2b 5 e9 0 hj 8 fl 1x 51 1 1b ",
    "0 1y 1q 2 s 3 a 7 9 7 d f7 y 7f 0 jd 2 48 2 1j 0 gv 0 ja 1 u 2 5 9 2 i 2 0 5 n 2g 0 se 4 ",
    "7r 0 e 1 30 6 8w 0 sz b lmd 7 zp 1b bl 2f 8p 9 4n r 2t s 4 25 2 a 5 1 3l r 5 1u p 4 69 19 ",
    "3 9 8mv m 5 1c 6sw 2 2qb l 2 8 57 1 91 v 3l 1h 4 s 3 q 6 7 3l 20 ew u ea 1t 667 tq 11aq a ",
    "6 u 3 0 c 0 2 0 3 0 4 0 4 4 9 0 8 0 q 0 2 1 3 0 b 3 3 0 34 0 g x f 8 zp4 378"]),
  (["6.0", "v60"],
    ["10m 1 6x 0 1r 0 dd r 3 0 64 1 k 0 7 1 s 4 e3 5 c2 0 h 0 k 0 fy 3 22 1 oz 1 1nm 1f 9 3 e5 ",
    "0 ih 7 t 0 mo a kb 0 k 0 2 3 u 0 5 1 t 0 10 0 2 0 5 2 a 1 1h 2 p 0 f 0 f 1 141 0 f 0 u1 2 ",
    "n1i 1 8c 1 2 1 f 9 29 0 lj 5 3 5 3 5 a 6 2 6 fwk f 3zz 25 5 t hap fs ds8 1 crj e 3 d 3 e ",
    "2 e 29 0 2 a 2 0 2 1 2 2 2 2 6 7 2 6 2 9 7 8 2 0 3 1 2 9 5 1 2 9 24 p 2 1 1c 8 m 1 4v w g ",
    "5 2 1x 4 j d 10 2 4 m g g 1q 2 0 2 51 2 3 4 1p j n 44 4 2 f 2 2 2 0 2 0 2 0 2 2 2 5 3 3 2 ",
    "0 3 3 2 b 5 a 1d 1x 1n 37 11vx 65"]),
  (["6.1", "v61"],
    ["13j 0 39 0 ik 0 2 a 1k q du 0 ry 1 dk 0 6 0 1c 2 23w 2 d 5 75 7 18 3 251 0 2 0 10l 1 1g 0 ",
    "6 0 1l 1 5n 9 mfl 0 1bc 7 10 0 6r 1 n 0 26 1 kn m fnc 1 30x 1j 7 1 1e9 o 8 9 7 1g 2 d 1p ",
    "20 8 9 x3 1j 9 9 hfb 1w c 1a h g oyp 3 2 q 2 1 2 0 3 0 2 9 2 3 2 0 2 0 7 0 5 0 2 0 2 0 2 ",
    "2 2 1 2 0 3 0 2 0 2 0 2 0 2 0 2 1 2 0 3 3 2 6 2 3 2 3 2 0 2 9 2 g 6 2 2 4 2 g 1h 1 hl 1 ",
    "r9 3 59 0 h 0 4 0 2 0 2 0 2 0 4 0 7 1 5 0 2 1 5 0"]),
  (["6.2", "v62"],
    ["6gq 0"]),
  (["6.3", "v63"],
    ["17g 0 56y 3"]),
  (["7.0", "v70"],
    ["ov 0 bt 7 2m 1 3b 0 ik 0 c 5 25 0 3d 0 8 0 hs 0 1g 0 25 0 3k 0 6d 9 1s2 7 f9 1 b6 e fu 1 ",
    "6m e jq 2 mv 6 li 0 ul 2 b p 3 v 3 x 4 b 2 7 h7 6 nrq 5 6v b c 2 3 1 1y 0 dl u 3i 3 4x 1b ",
    "5 1 gci 6 ny 1 k 0 8w r 10 0 1d 16 au 13 9 1f c 0 41 8m a l b 7 6x 1q 9 8 cx v x 12 5 b ",
    "3u h 8 3 d 6 y8 0 5t 12 2f 0 d 0 7 j c h 2 16 37 1m 6 9 8 2 2 7 3 1 3 l 2 6 2 1 2 4 3 8 3 ",
    "1 3 2 a 0 6 6 3 6 4 4 7g 1z 9 9 4n 1h 3 h 1j 1w c 9 g7 2a d 0 ch 1k 1o7 15 5n b 6 0 dsc u ",
    "2 9 5 1 2p t 3 5 b 1x b 9 2 6 2 k 6 i fw1 2y 6 c 4 8 8 9 3 7 8kd 5g 3 f 1k9 0 x l m 1 et ",
    "b a 0 1z 0 n b 12 0 6 3 6 b i 6 20 0 2 0 53 0 5 1 1s 1 5 6 u h 2 14 2 2d 1z 1 e 1b 1z 9 h ",
    "c 4 3 3x 2c 18 b 5 1j 9 9 7 13 9 t"]),
  (["8.0", "v80"],
    ["1pv 1 1b 0 eu 0 9t 0 79 0 1au 0 3 5 2ip 0 5o 1 21t 3 mvy 8 1c9 0 6p 0 z 5 91 1 gz 3 d 27 ",
    "ga7 1 241 i 2 1 6 4 59 1 3 f 3 19 ht 1e e 1e 8 5 y2 3 f 4 4h 6 2 0 2 3 2 e 2 a 2f 0 28 0 ",
    "hm j 83 p 4 e 5 f 2fu 0 6f 5f 62l g6 rko a 17c i3 g 4 2 e 4u6 2 27 1 28 4 11 7 74 0 24 4 ",
    "6s 1 3w 0 g0 8 2w 4 1o 0 11ls 4g1"]),
  (["9.0", "v90"],
    ["1py 7 n e pq 0 5r 0 5 2 2 6 o 2 2yw 8 ab 0 16o 3 211 1 nze 0 7r 0 hjc 1 ma z 5 z 2mb 0 ci ",
    "2h 2 0 2 0 eb c 13o 8 2 18 2 d b s 4 v 3 l 2 d gfe 0 w 4q4 k ky gsu 6 2 g 3 6 2 1 2 4 1qu ",
    "22 6 9 5 1 1mk h 3z 0 n3 0 16 0 8d 1 y 2 f7 5 2 7 9 0 3 b 2 b 5 e 13 c"]),
  (["10.0", "v100"],
    ["1nk a b6 1 71 5 e9 0 1n 1 33v 0 73 3 jq 0 n4 0 1jn 0 hf 4 kl 0 luw k jlv 2 4i9 1z 9 1f 3 ",
    "m 2 4 gu 6 2 1 2 17 4 0 2 1 2 8 9 9 gaw 0 co1 7w 2a az cit 5 vi 1 z 1 eg b k 0 9 7 2 1 q ",
    "0 j c 13 5 1l m 1616 5rk"]),
  (["11.0", "v110"],
    ["128 0 14 0 2v 0 em 2 5w 0 8b 0 3c 0 b2 0 3k 0 2d0 0 t4 16 3 2 2yj 2 n o 5 e gc 4 kh 0 lvg ",
    "4 1j4 0 9 1 91 1 j79 1 j 0 jc 13 9 9 cn 13 9 15 ac 0 3b 2 dx 0 83 0 jg 0 6e 1n gy 0 jn 5 ",
    "2 1 2 10 2 1 2 5 8 9 8n o fns 2i 503 4 esv j 3j 6 4xl 1v vv 0 156 0 64 3 ad 2 t 4 3 3 4 0 ",
    "2 3 p a e 9 8 1 11 o 2p d"]),
  (["12.0", "v120"],
    ["2gn 0 en 0 3 0 3 0 2 5 5 0 8 0 8 1 3 0 e 0 2tc 0 2xb 0 1i 0 gg 0 nzf 5 3 4 ps 1 juh m vd ",
    "0 gp 0 ko 7 3 19 3 a 4g 1 117 1d e 0 3zl 8 bnx 5 5 0 1c 8 2j 1 4r3 5 861 2 i 3 9eh 18 4 d ",
    "3 9 5 1 a9 1l 6 0 18s 0 qe 1o tr 0 12h 0 11 0 6e b 82 2 1c 0 1e 0 a 0 16 5 4 1 b 5 4 7 3 ",
    "2 1d 2b t 3 5 2 6 2 e 5"]),
  (["12.1", "v121"],
    ["a2n 0"]),
  (["13.0", "v130"],
    ["1q6 9 i6 0 bz 0 3h 0 2m6 1 3br 0 jd 2 o9 4 5iv 9 g8h c 1jf 3 17 1 1i 0 n0 3 h0x 0 2jo 15 ",
    "2 2 3 1 73 r ak 0 3r 1 i3 0 6 1 wv 6 3 0 3 7 2 1 2 t 2 1 3 b a 9 193 0 fuc 0 c 1 5c2 de ",
    "17 8 jr9 2 2m 2 1q 0 10p 1 10 1 c4 1 2j 0 2u 0 5 1 17 1 7 2 u 0 4p 0 f 3 g i 8 6 a 2 e 6 ",
    "16 42 2 1i 12 9 xr2 6 hlv 3t6"]),
  (["14.0", "v140"],
    ["17h 0 gj u 2 1 7 7 m 0 j a oa 0 x 0 3k 0 20g 0 8 0 a 0 6o 0 j6 d 3i 0 1d 1 ho 0 jq 0 29b ",
    "0 1c 0 dw a mg0 2 1j5 1 f 1 2 0 2 4 p 2 gjy 0 am f 3k 0 1b 1 1gx a 2 e 2 6 2 1 2 a 2 e 2 ",
    "6 2 1 ck 5 2 15 2 8 1iu p 6f 5 25 0 16f 0 3r 6 oa f 441 2q bjy 26 2 9 dnr 3 2 6 2 1 81 3 ",
    "5we 19 3 m a 37 fa 1 2l2 u oi u 10y 6 2 3 2 1 2 e 2xr 2 7l 0 ax 0 2b 0 4v 1 19 3 b 3 9 2 ",
    "i 2 7 7 9 6 xyg 1 386 3"]),
  (["15.0", "v150"],
    ["2k3 0 d7 0 1elr 2 n4 2 1q7 9 s7 g 2 14 4 r 446 0 a s onx 0 z 0 6ln j 2fm 5 7a 1p y 0 u9 ",
    "15 3j7 0 48 2 5 4 2i 0 ik 2 g 1 11 2 c 2 2 0 f 1 b 1 d 0 f 1 116p 0 i6v 38f"])]

end TabSearch.Unicode
