/-!
# The ages of characters

The age of a character is the version of Unicode that introduced it.
-/

namespace HeaderBindings.Pattern.Property

/-- The versions from the oldest to the latest one: the label of each, and its names. -/
def ages : List (String × List String) :=
  [("a", ["1.1", "v11"]), ("b", ["2.0", "v20"]), ("c", ["2.1", "v21"]), ("d", ["3.0", "v30"]),
   ("e", ["3.1", "v31"]), ("f", ["3.2", "v32"]), ("g", ["4.0", "v40"]), ("h", ["4.1", "v41"]),
   ("i", ["5.0", "v50"]), ("j", ["5.1", "v51"]), ("k", ["5.2", "v52"]), ("l", ["6.0", "v60"]),
   ("m", ["6.1", "v61"]), ("n", ["6.2", "v62"]), ("o", ["6.3", "v63"]), ("p", ["7.0", "v70"]),
   ("q", ["8.0", "v80"]), ("r", ["9.0", "v90"]), ("s", ["10.0", "v100"]), ("t", ["11.0", "v110"]),
   ("u", ["12.0", "v120"]), ("v", ["12.1", "v121"]), ("w", ["13.0", "v130"]),
   ("x", ["14.0", "v140"]), ("y", ["15.0", "v150"]), ("z", ["15.1", "v151"]),
   ("aa", ["16.0", "v160"])]

/-- The age of every code point, as labelled runs. -/
def ageRuns : String :=
  "a502 d4 a30 d8 f g d18 g3 h11 i14 a89 d5 g2 a47 d a10 d5 g17 a70 d9 f g8 h5 g3 a2 d f13 j4
  a2 j2 none2 a i3 a p none4 a7 none a none a20 none a44 j a7 d f2 a d a d a d a d a18 e2 f g5
  h4 d a12 d a66 d a12 d a41 j d2 f2 d4 a53 f2 a2 f2 a2 f2 i a28 d2 a8 h2 a2 i6 f16 i4 j16 k2
  l2 p8 none a38 none2 a7 t a39 t a d none2 p2 m none b17 h b13 a10 i a9 b h3 none8 a27 none4
  t a5 none11 g4 m p j5 h a g9 j5 a o x h a l a26 j5 a19 d3 g3 h6 l a14 f2 a72 d2 a5 d a15 d
  a30 g2 a10 d5 g d14 none d30 g3 d27 none2 g3 h30 j18 d49 f none14 i59 none2 t3 k46 none2 k15
  none l28 none2 l none s11 none5 x31 none x2 none5 aa x8 m p m11 p6 q2 x r8 w10 x11 t r15 q
  m27 p k a3 g a53 l2 a18 k l a5 k l2 a25 j2 l5 p k2 i2 h i2 p a3 none a8 none2 a2 none2 a22
  none a7 none a none3 a4 none2 a g a7 none2 a2 none2 a3 h none8 a none4 a2 none a5 none2 a21
  k s2 t none2 g a g none a6 none4 a2 none2 a22 none a7 none a2 none a2 none a2 none2 a none
  a5 none4 a2 none2 a3 none3 j none7 a4 none a none7 a15 j t none10 a3 none a7 g a none a3
  none a22 none a7 none a2 none a5 none2 a10 none a3 none a3 none2 a none15 a g3 none2 a10 m g
  none7 q s6 none a3 none a8 none2 a2 none2 a22 none a7 none a2 none g a4 none2 a8 j none2 a2
  none2 a3 none7 w a2 none4 a2 none a3 j2 none2 a11 g l6 none10 a2 none a6 none3 a3 none a4
  none3 a2 none a none a2 none3 a2 none3 a3 none3 a8 h a3 none4 a5 none3 a3 none a4 none2 j
  none6 a none14 h a12 g8 none5 p a3 t a8 none a3 none a23 none a10 p a5 none2 x j a7 none a3
  none a4 none7 a2 none j2 q none2 x none2 a2 j2 none2 a10 none7 u j8 r p a2 t a8 none a3 none
  a23 none a10 none a5 none2 g2 a7 none a3 none a4 none7 a2 none6 x a none a2 i2 none2 a10
  none i2 y none12 s p a2 w a8 none a3 none a23 l a16 l s2 j a6 j none a3 none a4 l r none4 r3
  a r7 q a2 j2 none2 a10 j6 r3 j7 none w d2 none d18 none3 d24 none d9 none d none2 d7 none3 d
  none4 d6 none d none d8 none6 p10 none2 d3 none12 a58 none4 a29 none37 a2 none a none u a2 u
  a none u a u6 a4 u a7 u a3 none a none a u2 a2 u a13 u a3 none2 a5 none a none a6 y none a10
  none2 a2 m2 none32 b72 none b33 d j2 none4 b27 l4 b6 d b none b21 d3 b7 d b d3 none d15 none
  j d h2 j3 k4 l2 none37 d34 j d5 j d2 j d7 j3 d4 j6 d26 j64 k4 j2 a38 none m none5 m none2
  a39 f2 h2 a h m3 a90 k5 a68 k5 a82 k6 d7 h d63 h d none d4 none2 d7 none d none d4 none2 d39
  h d none d4 none2 d31 h d none d4 none2 d7 none d none d4 none2 d7 h d7 none d23 h d31 h d
  none d4 none2 d7 h d39 h d19 none2 l2 h2 d28 none3 h26 none6 d85 q none2 q6 none2 k d630 k9
  d29 none3 d81 p8 none7 f13 x f7 x none9 x f23 none9 f20 none12 f13 none f3 none f2 none12
  d93 g none2 d10 none6 g10 none6 d15 x d10 none6 d88 t none7 d42 j none5 k70 none10 g29 p2
  none g12 none4 g12 none4 g none3 g42 none2 g5 none11 h42 k2 none4 h26 none6 h10 k none3 h2
  g32 h28 none2 h2 k63 none k29 none2 k11 none6 k10 none6 k14 none2 p15 w2 x14 none49 i76 x
  none aa2 i45 x2 aa j43 m3 j12 m6 l52 none8 l4 j56 none3 j15 none3 j51 r9 aa2 none5 t43 none2
  t3 m8 none8 k35 m4 s p2 u none5 g108 h88 i7 j28 p15 s4 x r l k i2 a155 b j4 a90 j6 a22 none2
  a6 none2 a38 none2 a6 none2 a8 none a none a none a none a31 none2 a53 none a15 none a14
  none2 a6 none a19 none2 a3 none a9 none a47 d a23 f d6 f5 g2 h2 f h7 f5 j none o4 a7 f none2
  a27 none h5 l8 none3 a11 b c d3 f2 h4 k3 l n p3 q s x none15 a18 d2 f7 h i4 j none15 a57 d2
  g h f15 h i2 j k3 a48 d i j4 k q2 none4 a91 d9 f12 a242 f14 a d a121 d f d30 f52 g2 h11 i12
  k l11 p7 r4 s a37 d2 aa3 none22 a11 none21 a139 f20 g a150 f10 a80 d8 f8 a20 g2 f2 h d a86
  d2 f12 h2 f10 g8 h11 j k2 g2 h16 i j10 k3 j4 k10 l k19 l k l4 k24 p a4 l a4 l2 a28 l a35 l a
  l a4 l3 a k a7 l2 a7 f14 a31 l3 a24 l a14 l h7 i4 m j m l2 f28 j4 f16 d256 f512 g14 h6 i7 j5
  i4 j41 p3 j5 k5 p26 none2 p32 none w p34 t3 p12 u p8 s t25 q4 t15 u h47 x h47 x i13 j3 k j3
  i4 j6 k2 h107 k7 m2 none5 h45 none m none5 m none2 h54 m2 none7 h l none14 l h23 none9 h7
  none h7 none h7 none h7 none h7 none h7 none h7 none h7 none j32 h24 j4 h2 j19 k m10 p7 r2
  s5 t5 u w3 x11 none34 d26 none d89 none12 d214 none26 d12 z4 a56 d3 f3 d a none a84 f2 none2
  a6 f2 a94 f none5 a40 j s t none a94 none a16 d24 l3 w5 h16 j20 aa2 none9 z f16 a29 g2 none
  a36 k12 g f15 a28 g2 h a50 f15 a12 g4 a47 v a119 g4 a99 g2 a31 g d6582 w10 g64 a20902 h22 j8
  k8 m q9 s21 t5 w13 x3 d1165 none3 d18 f2 d16 f d12 f d3 f d none9 k48 j300 none20 j32 l2 j18
  m8 j28 p6 q m k88 none8 h23 i4 j5 i2 j107 l2 q l2 m2 p12 l10 m p3 r t p2 q6 t2 u6 x2 u5 w4
  aa3 none2 x2 none x none x5 aa3 none21 x3 w2 p m2 l j5 h44 w none3 k10 none6 i56 none8 j69 r
  none8 j12 none6 k28 q2 t2 j84 none11 j k29 none3 k78 none k11 none4 k2 p31 none j55 none9
  j14 none2 j10 none2 j4 k28 p4 k67 none24 k5 m23 none10 l6 none2 l6 none2 l6 none9 l7 none l7
  none p48 q4 p2 u2 w4 none4 q80 k46 none2 k10 none6 b11172 none12 k23 none4 k49 none2052
  a6702 m2 f59 k3 none2 h106 none38 a7 none12 a5 none5 d a25 none a5 none a none a2 none a2
  none a108 l16 x none16 a365 x16 a64 none2 a54 none7 x e32 a12 f g x2 f16 h10 none6 a4 j3 p7
  q2 a21 f2 g2 a10 none a19 none a4 none4 a3 f a none a135 none2 a none a94 f2 a94 none3 a6
  none2 a6 none2 a6 none2 a3 none3 a7 none a7 none10 d3 c a3 g12 none g26 none g19 none g2
  none g15 none2 g14 none34 g123 none5 g3 none4 g45 none3 g9 h75 p2 r2 none j12 w none3 p
  none47 j46 none130 j29 none3 j49 none15 p28 none4 e31 p e4 none9 s3 e27 none5 p43 none5 g30
  none g h36 none4 h14 none42 e38 g2 e38 g80 none2 g10 none6 r36 none4 r36 none4 p40 none8 p52
  none11 p x11 none x15 none x7 none x2 none x11 none x15 none x7 none x2 none3 aa52 none12
  p311 none9 p22 none10 p8 none24 x6 none x42 none x9 none69 g6 none2 g none g44 none g2 none3
  g none2 g k22 none k9 p63 none8 p9 none48 q19 none q2 none5 q5 i26 k2 none3 i j26 none5 j
  none64 m56 none4 q2 m2 q16 none2 q46 h4 none h2 none5 h8 none h3 none h27 t2 none2 h3 none4
  h9 t none7 h9 none7 k32 p32 none32 p39 none4 p12 none9 k54 none3 k29 none2 k27 none5 k8 p18
  none7 p4 none12 p7 none80 k73 none55 q51 none13 q51 none7 q6 t40 none8 t10 none6 aa38 none3
  aa29 none8 aa2 none208 k31 none w42 none w3 none2 w2 none16 aa3 none55 aa y3 t40 none8 t42
  none22 x26 none38 w28 none20 u23 none9 l78 none4 l30 x6 none9 p k66 x none10 t none2 m25
  none7 m10 none6 m53 none m14 t3 w none8 p39 none9 m73 q4 p w2 m10 p q5 none p20 none11 p18
  none p43 r y3 none62 q7 none q none q4 none q15 none q11 none6 p59 none5 p10 none6 q p3 none
  p8 none2 p2 none2 p22 none p7 none p2 none p5 none t p9 none2 p2 none2 p3 none2 q none6 p
  none5 p7 none2 p7 none3 p5 none11 aa10 none aa none2 aa none aa38 none aa10 none aa none2 aa
  none aa4 none aa10 none aa2 none8 aa2 none29 r90 w r none r t u w2 none30 p72 none8 p10
  none166 p54 none2 p18 q20 none34 p69 none11 p10 none6 r13 none19 m56 u x none6 m10 none6
  aa20 none28 q26 t none2 q15 none4 q16 x7 none185 t60 none100 p83 none12 p w7 none2 w none2
  w8 none w2 none w30 none w2 none2 w12 none9 w10 none70 u8 none2 u46 none2 u11 none27 s72
  none8 s52 u2 s23 t s5 none13 x16 p57 none7 y10 none182 aa34 none14 aa10 none6 r9 none r45
  none r14 none10 r29 none3 r32 none2 r22 none r14 none73 s7 none s2 none s44 none3 s none s2
  none s9 none8 s10 none6 t6 none t2 none t37 none t2 none t6 none7 t10 none310 t25 none7 y17
  none y41 none3 y28 aa none85 w none15 u50 none13 u i879 p42 q none102 i99 p12 none i4 p
  none11 q196 none2636 x99 none13 k1071 y u9 y29 none10 aa3995 none5 q583 none6841 aa58
  none1734 l569 none7 p31 none p10 none4 p2 x79 none x10 none6 p30 none2 p6 none10 p70 none10
  p10 none p7 none p21 none5 p19 none432 aa58 none198 t91 none101 m69 u6 none4 u m47 u9 none7
  m17 none64 r s u2 w none11 w2 none14 r6125 t5 u6 none8 r755 w483 none41 aa w9 none8935 x4
  none x7 none x2 none l2 s285 x4 none15 y none29 u3 none2 y none14 u4 none8 s396 none2308
  p107 none5 p13 none3 p9 none7 p10 none2 p8 none3932 aa250 none6 aa436 none76 x46 none2 x23
  none9 x116 none60 e246 none10 e39 none2 j e180 q11 x2 none21 h70 none122 y20 none12 t20
  none12 g87 none9 i18 t7 none135 e85 none e71 none e2 none2 e none2 e2 none2 e4 none e12 none
  e none e4 g e2 none e65 none e4 none2 e8 none e7 none e28 none e4 none e5 none e none3 e7
  none e338 h2 none2 e290 i2 none2 e50 q652 none15 q5 none q15 none1104 x31 none6 y6 none213
  r7 none r17 none2 r7 none r2 none r5 none5 y62 none33 y none112 u45 none3 u14 none2 u10
  none4 u2 none320 x31 none17 u58 none5 u none464 y42 none214 aa43 none4 aa none480 x7 none x4
  none x2 none x15 none p197 none2 p16 none41 r75 u none4 r10 none4 r2 none785 t68 none76 u61
  none194 m4 none m27 none m2 none m none2 m none m10 none m4 none m none m none6 m none4 m
  none m none m none m3 none m2 none m none2 m none m none m none m none m none m2 none m
  none2 m4 none m7 none m4 none m4 none m none m10 none m17 none5 m3 none m5 none m17 none52
  m2 none270 j44 none4 j100 none12 l15 none2 l14 p none l15 none l15 p22 none10 k11 p2 w3 k31
  t l k l11 k l k l2 k l3 k l3 k5 l8 k l7 k l10 m2 u w3 l9 k l k2 l2 k l10 k4 l2 k l10 r18 w
  none56 l26 k l2 none13 k34 l9 r none4 k9 none7 l2 none14 s6 none154 l33 p12 q3 l6 p l70 p q2
  l20 p12 l37 p l5 p4 q5 p12 l17 p7 q8 l63 p l p l182 p l4 p2 q l62 p2 m4 p7 q5 l24 p18 r p41
  r p86 l5 m l16 m l3 m l m l m l m l3 m l6 m2 l4 m l m2 l4 m l12 p2 q2 l11 p48 l70 p10 q r2
  s2 u w2 none4 y x3 p13 none3 p4 r3 s2 t u w2 none3 l116 y3 none4 y5 p85 t4 y none6 u12 none4
  x none15 p12 none4 p56 none8 p10 none6 p40 none8 p30 none2 w2 aa10 none4 aa2 none62 s12 w u3
  q9 r6 s r8 s8 r s2 r12 u r12 s t3 r15 s13 t5 u w t4 w2 x t u t4 q5 r13 s6 t11 w2 u6 w3 u2
  t10 u6 q t2 u8 w x u3 s23 t25 u84 none12 t14 none2 u4 w y3 u3 x2 none3 u3 w4 y2 aa none5 aa
  u6 w19 x4 y3 w7 x4 y3 aa y w3 x3 aa none7 y2 w7 x3 y2 aa none2 aa x8 y aa none6 x7 y2 none7
  w147 none w55 aa37 w10 none1028 b2 e42711 w7 x2 none32 k4149 x4 y none6 l222 none2 q5762
  none14 s7473 none15 z622 none2466 e542 none1504 b2 w4939 none5 y4192 none56398 b2 none65534
  b2 none65534 b2 none65534 b2 none65534 b2 none65534 b2 none65534 b2 none65534 b2 none65534
  b2 none65534 b2 none65534 b2 none e none30 e96 none128 g240 none65038 b131074"

end HeaderBindings.Pattern.Property
