import HeaderBindings.Pattern.CharSet.Runs

/-!
# Boundaries in text

The properties by which text is divided into graphemes, words and sentences. Code points that play
no part in a division are labelled `xx`.
-/

namespace HeaderBindings.Pattern.Property

/-- The property Grapheme_Cluster_Break. -/
def graphemeBreaks : ValueTable where
  names :=
    [["cn", "control"], ["cr"], ["ex", "extend"], ["l"], ["lf"], ["lv"], ["lvt"], ["pp", "prepend"],
     ["ri", "regionalindicator"], ["sm", "spacingmark"], ["t"], ["v"], ["zwj"]]
  runs :=
    "cn10 lf cn2 cr cn18 xx95 cn33 xx13 cn xx594 ex112 xx275 ex7 xx263 ex45 xx ex xx ex2 xx ex2
    xx ex xx56 pp6 xx10 ex11 xx cn xx46 ex21 xx16 ex xx101 ex7 pp xx ex6 xx2 ex2 xx ex4 xx33 pp
    xx ex xx30 ex27 xx91 ex11 xx58 ex9 xx9 ex xx24 ex4 xx ex9 xx ex3 xx ex5 xx43 ex3 xx52 pp2
    xx5 ex9 xx42 ex24 pp ex32 sm xx54 ex sm ex xx sm3 ex8 sm4 ex sm2 xx ex7 xx10 ex2 xx29 ex sm2
    xx56 ex xx ex sm2 ex4 xx2 sm2 xx2 sm2 ex xx9 ex xx10 ex2 xx26 ex xx2 ex2 sm xx56 ex xx sm3
    ex2 xx4 ex2 xx2 ex3 xx3 ex xx30 ex2 xx3 ex xx11 ex2 sm xx56 ex xx sm3 ex5 xx ex2 sm xx sm2
    ex xx20 ex2 xx22 ex6 xx ex sm2 xx56 ex xx ex2 sm ex4 xx2 sm2 xx2 sm2 ex xx7 ex3 xx10 ex2
    xx30 ex xx59 ex sm ex sm2 xx3 sm3 xx sm3 ex xx9 ex xx40 ex sm3 ex xx55 ex xx ex3 sm4 xx ex3
    xx ex4 xx7 ex2 xx11 ex2 xx29 ex sm2 xx56 ex xx sm ex2 sm ex sm2 xx ex3 xx ex4 xx7 ex2 xx11
    ex2 xx15 sm xx12 ex2 sm2 xx55 ex2 xx ex sm2 ex4 xx sm3 xx sm3 ex pp xx8 ex xx10 ex2 xx29 ex
    sm2 xx70 ex xx4 ex sm2 ex3 xx ex xx sm7 ex xx18 sm2 xx61 ex xx sm ex7 xx12 ex8 xx98 ex xx sm
    ex9 xx11 ex7 xx73 ex2 xx27 ex xx ex xx ex xx4 sm2 xx49 ex14 sm ex5 xx ex2 xx5 ex11 xx ex36
    xx9 ex xx102 ex4 sm ex6 xx ex2 sm2 ex2 xx23 sm2 ex2 xx4 ex3 xx16 ex4 xx13 ex xx sm ex2 xx6
    ex xx15 ex xx98 l96 v72 t88 xx349 ex3 xx946 ex4 xx28 ex3 xx29 ex2 xx30 ex2 xx64 ex2 sm ex7
    sm8 ex sm2 ex11 xx9 ex xx45 ex3 cn ex xx117 ex2 xx34 ex xx118 ex3 sm4 ex2 sm3 xx4 sm2 ex sm6
    ex3 xx219 ex2 sm2 ex xx57 sm ex sm ex7 xx ex xx ex xx2 ex8 sm6 ex10 xx2 ex xx48 ex31 xx49
    ex4 sm xx47 ex10 sm4 ex3 xx38 ex9 xx12 ex2 sm xx30 sm ex4 sm2 ex6 xx56 ex sm ex2 sm3 ex sm
    ex5 xx48 sm8 ex8 sm2 ex2 xx152 ex3 xx ex13 sm ex7 xx4 ex xx6 ex xx2 sm ex2 xx198 ex64 xx523
    cn ex zwj cn2 xx24 cn7 xx49 cn16 xx96 ex33 xx3070 ex3 xx141 ex xx96 ex32 xx554 ex6 xx105 ex2
    xx30164 ex4 xx ex10 xx32 ex2 xx80 ex2 xx272 ex xx3 ex xx4 ex xx23 sm2 ex2 sm xx4 ex xx83 sm2
    xx50 sm16 ex2 xx26 ex18 xx13 ex xx38 ex8 xx25 ex11 sm ex xx12 l29 xx3 ex3 sm xx47 ex sm2 ex4
    sm2 ex2 sm2 ex xx36 ex xx67 ex6 sm2 ex2 sm2 ex2 xx12 ex xx8 ex sm xx46 ex xx51 ex xx ex3 xx2
    ex2 xx5 ex2 xx ex xx41 sm ex2 sm2 xx5 sm ex xx236 sm2 ex sm2 ex sm2 xx sm ex xx18 lv lvt27
    lv lvt27 lv lvt27 lv lvt27 lv lvt27 lv lvt27 lv lvt27 lv lvt27 lv lvt27 lv lvt27 lv lvt27 lv
    lvt27 lv lvt27 lv lvt27 lv lvt27 lv lvt27 lv lvt27 lv lvt27 lv lvt27 lv lvt27 lv lvt27 lv
    lvt27 lv lvt27 lv lvt27 lv lvt27 lv lvt27 lv lvt27 lv lvt27 lv lvt27 lv lvt27 lv lvt27 lv
    lvt27 lv lvt27 lv lvt27 lv lvt27 lv lvt27 lv lvt27 lv lvt27 lv lvt27 lv lvt27 lv lvt27 lv
    lvt27 lv lvt27 lv lvt27 lv lvt27 lv lvt27 lv lvt27 lv lvt27 lv lvt27 lv lvt27 lv lvt27 lv
    lvt27 lv lvt27 lv lvt27 lv lvt27 lv lvt27 lv lvt27 lv lvt27 lv lvt27 lv lvt27 lv lvt27 lv
    lvt27 lv lvt27 lv lvt27 lv lvt27 lv lvt27 lv lvt27 lv lvt27 lv lvt27 lv lvt27 lv lvt27 lv
    lvt27 lv lvt27 lv lvt27 lv lvt27 lv lvt27 lv lvt27 lv lvt27 lv lvt27 lv lvt27 lv lvt27 lv
    lvt27 lv lvt27 lv lvt27 lv lvt27 lv lvt27 lv lvt27 lv lvt27 lv lvt27 lv lvt27 lv lvt27 lv
    lvt27 lv lvt27 lv lvt27 lv lvt27 lv lvt27 lv lvt27 lv lvt27 lv lvt27 lv lvt27 lv lvt27 lv
    lvt27 lv lvt27 lv lvt27 lv lvt27 lv lvt27 lv lvt27 lv lvt27 lv lvt27 lv lvt27 lv lvt27 lv
    lvt27 lv lvt27 lv lvt27 lv lvt27 lv lvt27 lv lvt27 lv lvt27 lv lvt27 lv lvt27 lv lvt27 lv
    lvt27 lv lvt27 lv lvt27 lv lvt27 lv lvt27 lv lvt27 lv lvt27 lv lvt27 lv lvt27 lv lvt27 lv
    lvt27 lv lvt27 lv lvt27 lv lvt27 lv lvt27 lv lvt27 lv lvt27 lv lvt27 lv lvt27 lv lvt27 lv
    lvt27 lv lvt27 lv lvt27 lv lvt27 lv lvt27 lv lvt27 lv lvt27 lv lvt27 lv lvt27 lv lvt27 lv
    lvt27 lv lvt27 lv lvt27 lv lvt27 lv lvt27 lv lvt27 lv lvt27 lv lvt27 lv lvt27 lv lvt27 lv
    lvt27 lv lvt27 lv lvt27 lv lvt27 lv lvt27 lv lvt27 lv lvt27 lv lvt27 lv lvt27 lv lvt27 lv
    lvt27 lv lvt27 lv lvt27 lv lvt27 lv lvt27 lv lvt27 lv lvt27 lv lvt27 lv lvt27 lv lvt27 lv
    lvt27 lv lvt27 lv lvt27 lv lvt27 lv lvt27 lv lvt27 lv lvt27 lv lvt27 lv lvt27 lv lvt27 lv
    lvt27 lv lvt27 lv lvt27 lv lvt27 lv lvt27 lv lvt27 lv lvt27 lv lvt27 lv lvt27 lv lvt27 lv
    lvt27 lv lvt27 lv lvt27 lv lvt27 lv lvt27 lv lvt27 lv lvt27 lv lvt27 lv lvt27 lv lvt27 lv
    lvt27 lv lvt27 lv lvt27 lv lvt27 lv lvt27 lv lvt27 lv lvt27 lv lvt27 lv lvt27 lv lvt27 lv
    lvt27 lv lvt27 lv lvt27 lv lvt27 lv lvt27 lv lvt27 lv lvt27 lv lvt27 lv lvt27 lv lvt27 lv
    lvt27 lv lvt27 lv lvt27 lv lvt27 lv lvt27 lv lvt27 lv lvt27 lv lvt27 lv lvt27 lv lvt27 lv
    lvt27 lv lvt27 lv lvt27 lv lvt27 lv lvt27 lv lvt27 lv lvt27 lv lvt27 lv lvt27 lv lvt27 lv
    lvt27 lv lvt27 lv lvt27 lv lvt27 lv lvt27 lv lvt27 lv lvt27 lv lvt27 lv lvt27 lv lvt27 lv
    lvt27 lv lvt27 lv lvt27 lv lvt27 lv lvt27 lv lvt27 lv lvt27 lv lvt27 lv lvt27 lv lvt27 lv
    lvt27 lv lvt27 lv lvt27 lv lvt27 lv lvt27 lv lvt27 lv lvt27 lv lvt27 lv lvt27 lv lvt27 lv
    lvt27 lv lvt27 lv lvt27 lv lvt27 lv lvt27 lv lvt27 lv lvt27 lv lvt27 lv lvt27 lv lvt27 lv
    lvt27 lv lvt27 lv lvt27 lv lvt27 lv lvt27 lv lvt27 lv lvt27 lv lvt27 lv lvt27 lv lvt27 lv
    lvt27 lv lvt27 lv lvt27 lv lvt27 lv lvt27 lv lvt27 lv lvt27 lv lvt27 lv lvt27 lv lvt27 lv
    lvt27 lv lvt27 lv lvt27 lv lvt27 lv lvt27 lv lvt27 lv lvt27 lv lvt27 lv lvt27 lv lvt27 lv
    lvt27 lv lvt27 lv lvt27 lv lvt27 lv lvt27 lv lvt27 lv lvt27 lv lvt27 lv lvt27 lv lvt27 lv
    lvt27 lv lvt27 lv lvt27 lv lvt27 lv lvt27 lv lvt27 lv lvt27 lv lvt27 lv lvt27 lv lvt27 lv
    lvt27 lv lvt27 lv lvt27 lv lvt27 lv lvt27 lv lvt27 lv lvt27 lv lvt27 lv lvt27 lv lvt27 lv
    lvt27 lv lvt27 lv lvt27 lv lvt27 lv lvt27 lv lvt27 lv lvt27 lv lvt27 lv lvt27 lv lvt27 lv
    lvt27 lv lvt27 lv lvt27 lv lvt27 lv lvt27 lv lvt27 lv lvt27 lv lvt27 lv lvt27 lv lvt27 lv
    lvt27 lv lvt27 lv lvt27 lv lvt27 lv lvt27 lv lvt27 lv lvt27 lv lvt27 lv lvt27 lv lvt27 lv
    lvt27 lv lvt27 lv lvt27 lv lvt27 lv lvt27 lv lvt27 lv lvt27 lv lvt27 lv lvt27 lv lvt27 lv
    lvt27 lv lvt27 lv lvt27 lv lvt27 lv lvt27 lv lvt27 lv lvt27 lv lvt27 xx12 v23 xx4 t49 xx8994
    ex xx737 ex16 xx16 ex16 xx207 cn xx158 ex2 xx80 cn12 xx513 ex xx226 ex xx149 ex5 xx1670 ex3
    xx ex2 xx5 ex4 xx40 ex3 xx4 ex xx165 ex2 xx573 ex4 xx65 ex5 xx317 ex2 xx79 ex4 xx70 ex11
    xx49 ex4 xx122 sm ex sm xx53 ex15 xx41 ex xx2 ex2 xx10 ex3 sm xx45 sm3 ex4 sm2 ex2 xx2 pp
    xx4 ex xx10 pp xx50 ex3 xx36 ex5 sm ex8 xx16 sm2 xx44 ex xx12 ex2 sm xx48 sm3 ex9 sm ex xx
    pp2 xx5 ex4 xx sm ex xx92 sm3 ex3 sm2 ex4 xx6 ex xx2 ex xx157 ex sm3 ex8 xx21 ex2 sm2 xx55
    ex2 xx ex sm ex sm4 xx2 sm2 xx2 sm2 ex xx9 ex xx10 sm2 xx2 ex7 xx3 ex5 xx67 ex sm2 ex6 xx ex
    xx2 ex xx ex3 sm xx sm2 ex3 pp ex xx14 ex2 xx82 sm3 ex8 sm2 ex3 sm ex xx23 ex xx81 ex sm2
    ex6 sm ex sm2 ex sm ex2 sm ex2 xx235 ex sm2 ex4 xx2 sm4 ex2 sm ex2 xx27 ex2 xx82 sm3 ex8 sm2
    ex sm ex2 xx106 ex sm ex sm2 ex8 xx101 ex sm ex xx2 ex4 sm ex5 xx256 sm3 ex9 sm ex2 xx245 ex
    sm5 xx sm2 xx2 ex4 pp sm pp sm ex xx141 sm3 ex4 xx2 ex2 sm4 ex xx3 sm xx28 ex10 xx40 ex6 sm
    pp ex4 xx8 ex xx9 ex6 sm2 ex3 xx40 pp6 ex13 sm ex2 xx405 sm ex7 xx ex6 sm ex xx82 ex22 xx sm
    ex7 sm ex2 sm ex2 xx122 ex6 xx3 ex xx ex2 xx ex7 pp ex xx66 sm5 xx ex2 xx sm2 ex sm ex xx347
    ex2 sm2 xx9 ex2 pp sm xx48 sm2 ex5 xx3 sm2 ex3 xx23 ex xx5333 cn16 ex xx6 ex15 xx11464 ex12
    sm3 ex3 xx2496 ex5 xx59 ex7 xx556 v xx3 v4 xx484 ex xx sm55 xx7 ex4 xx81 ex xx11 ex2 xx19627
    ex2 xx cn4 xx4700 ex46 xx2 ex23 xx542 ex5 xx3 ex6 cn8 ex8 xx2 ex7 xx30 ex4 xx148 ex3 xx1979
    ex55 xx4 ex50 xx8 ex xx14 ex xx22 ex5 xx ex15 xx1360 ex7 xx ex17 xx2 ex7 xx ex2 xx ex5 xx100
    ex xx160 ex7 xx375 ex xx61 ex4 xx508 ex4 xx254 ex2 xx736 ex7 xx109 ex7 xx2203 ri26 xx507 ex5
    xx789504 cn32 ex96 cn128 ex240 cn3600"

/-- The property Word_Break. -/
def wordBreaks : ValueTable where
  names :=
    [["cr"], ["dq", "doublequote"], ["ex", "extendnumlet"], ["extend"], ["fo", "format"],
     ["hl", "hebrewletter"], ["ka", "katakana"], ["le", "aletter"], ["lf"], ["mb", "midnumlet"],
     ["ml", "midletter"], ["mn", "midnum"], ["nl", "newline"], ["nu", "numeric"],
     ["ri", "regionalindicator"], ["sq", "singlequote"], ["wsegspace"], ["zwj"]]
  runs :=
    "xx10 lf nl2 cr xx18 wsegspace xx dq xx4 sq xx4 mn xx mb xx nu10 ml mn xx5 le26 xx4 ex xx
    le26 xx10 nl xx36 le xx2 fo xx7 le xx ml xx2 le xx5 le23 xx le31 xx le480 xx6 le34 extend112
    le5 xx le2 xx2 le4 mn le xx6 le ml le3 xx le xx le20 xx le83 xx le139 xx extend7 le166 xx
    le38 xx2 le4 xx le ml le41 mn le xx6 extend45 xx extend xx extend2 xx extend2 xx extend xx8
    hl27 xx4 hl4 le ml xx11 nu6 xx6 mn2 xx2 extend11 xx fo xx3 le43 extend21 nu10 xx nu mn xx
    le2 extend le99 xx le extend7 nu xx extend6 le2 extend2 xx extend4 le2 nu10 le3 xx2 le xx15
    le2 extend le30 extend27 xx2 le89 extend11 le xx14 nu10 le33 extend9 le2 xx2 mn xx le xx2
    extend xx2 le22 extend4 le extend9 le extend3 le extend5 xx18 le25 extend3 xx4 le11 xx5 le24
    xx le6 xx nu2 xx5 extend9 le42 extend24 nu extend33 le54 extend3 le extend18 le extend7 le10
    extend2 xx2 nu10 xx le16 extend3 xx le8 xx2 le2 xx2 le22 xx le7 xx le xx3 le4 xx2 extend le
    extend7 xx2 extend2 xx2 extend3 le xx8 extend xx4 le2 xx le3 extend2 xx2 nu10 le2 xx10 le xx
    extend xx2 extend3 xx le6 xx4 le2 xx2 le22 xx le7 xx le2 xx le2 xx le2 xx2 extend xx extend5
    xx4 extend2 xx2 extend3 xx3 extend xx7 le4 xx le xx7 nu10 extend2 le3 extend xx11 extend3 xx
    le9 xx le3 xx le22 xx le7 xx le2 xx le5 xx2 extend le extend8 xx extend3 xx extend3 xx2 le
    xx15 le2 extend2 xx2 nu10 xx9 le extend6 xx extend3 xx le8 xx2 le2 xx2 le22 xx le7 xx le2 xx
    le5 xx2 extend le extend7 xx2 extend2 xx2 extend3 xx7 extend3 xx4 le2 xx le3 extend2 xx2
    nu10 xx le xx16 extend le xx le6 xx3 le3 xx le4 xx3 le2 xx le xx le2 xx3 le2 xx3 le3 xx3
    le12 xx4 extend5 xx3 extend3 xx extend4 xx2 le xx6 extend xx14 nu10 xx16 extend5 le8 xx le3
    xx le23 xx le16 xx2 extend le extend7 xx extend3 xx extend4 xx7 extend2 xx le3 xx2 le xx2
    le2 extend2 xx2 nu10 xx16 le extend3 xx le8 xx le3 xx le23 xx le10 xx le5 xx2 extend le
    extend7 xx extend3 xx extend4 xx7 extend2 xx6 le2 xx le2 extend2 xx2 nu10 xx le2 extend xx12
    extend4 le9 xx le3 xx le41 extend2 le extend7 xx extend3 xx extend4 le xx5 le3 extend xx7
    le3 extend2 xx2 nu10 xx10 le6 xx extend3 xx le18 xx3 le24 xx le9 xx le xx2 le7 xx3 extend
    xx4 extend6 xx extend xx extend8 xx6 nu10 xx2 extend2 xx61 extend xx2 extend7 xx12 extend8
    xx nu10 xx87 extend xx2 extend9 xx11 extend7 xx nu10 xx38 le xx23 extend2 xx6 nu10 xx11
    extend xx extend xx extend xx4 extend2 le8 xx le36 xx4 extend20 xx extend2 le5 extend11 xx
    extend36 xx9 extend xx100 extend20 xx nu10 xx12 extend4 xx4 extend3 xx extend3 xx2 extend7
    xx3 extend4 xx13 extend12 xx extend nu10 extend4 xx2 le38 xx le xx5 le xx2 le43 xx le333 xx
    le4 xx2 le7 xx le xx le4 xx2 le41 xx le4 xx2 le33 xx le4 xx2 le7 xx le xx le4 xx2 le15 xx
    le57 xx le4 xx2 le67 xx2 extend3 xx32 le16 xx16 le86 xx2 le6 xx3 le620 xx2 le17 wsegspace
    le26 xx5 le75 xx3 le11 xx7 le18 extend4 xx9 le19 extend3 xx11 le18 extend2 xx12 le13 xx le3
    xx extend2 xx64 extend32 xx9 extend xx2 nu10 xx33 extend3 fo extend nu10 xx6 le89 xx7 le5
    extend2 le34 extend le xx5 le70 xx10 le31 xx extend12 xx4 extend12 xx10 nu10 xx128 nu11 xx37
    le23 extend5 xx57 extend10 xx extend29 xx2 extend nu10 xx6 nu10 xx22 extend31 xx49 extend5
    le47 extend17 le8 xx3 nu10 xx17 extend9 xx12 extend3 le30 extend13 le2 nu10 le44 extend14
    xx12 le36 extend20 xx8 nu10 xx3 le3 nu10 le36 xx2 le11 xx5 le43 xx2 le3 xx16 extend3 xx
    extend21 le4 extend le6 extend le2 extend3 le xx5 le192 extend64 le278 xx2 le6 xx2 le38 xx2
    le6 xx2 le8 xx le xx le xx le xx le31 xx2 le53 xx le7 xx le xx3 le3 xx le7 xx3 le4 xx2 le6
    xx4 le13 xx5 le3 xx le7 xx3 wsegspace7 xx wsegspace3 xx extend zwj fo2 xx8 mb2 xx10 mb xx2
    ml nl2 fo5 ex xx15 ex2 xx3 mn xx15 ex xx10 wsegspace fo5 xx fo10 xx le xx13 le xx16 le13
    xx51 extend33 xx17 le xx4 le xx2 le10 xx le xx3 le5 xx6 le xx le xx le xx le4 xx le11 xx2
    le4 xx5 le5 xx4 le xx17 le41 xx813 le52 xx1814 le229 xx6 le4 extend3 le2 xx12 le38 xx le xx5
    le xx2 le56 xx7 le xx15 extend le23 xx9 le7 xx le7 xx le7 xx le7 xx le7 xx le7 xx le7 xx le7
    xx extend32 xx47 le xx464 wsegspace xx4 le xx36 extend6 xx ka5 xx5 le2 xx92 extend2 ka2 xx3
    ka91 xx ka4 xx5 le43 xx le94 xx17 le32 xx48 ka16 xx208 ka47 xx ka88 xx27816 le1165 xx67 le46
    xx2 le269 xx3 le16 nu10 le2 xx20 le47 extend4 xx extend10 xx le31 extend2 le80 extend2 xx22
    le198 xx2 le2 xx le xx le8 xx21 le16 extend le3 extend le4 extend le23 extend5 xx4 extend
    xx19 le52 xx12 extend2 le50 extend18 xx10 nu10 xx6 extend18 le6 xx3 le xx le2 extend nu10
    le28 extend8 xx2 le23 extend13 xx12 le29 xx3 extend4 le47 extend14 xx14 le nu10 xx11 extend
    xx10 nu10 xx6 le41 extend14 xx9 le3 extend le8 extend2 xx2 nu10 xx33 extend3 xx50 extend xx
    extend3 xx2 extend2 xx5 extend2 xx extend xx30 le11 extend5 xx2 le3 extend2 xx10 le6 xx2 le6
    xx2 le6 xx9 le7 xx le7 xx le58 xx6 le115 extend8 xx extend2 xx2 nu10 xx6 le11172 xx12 le23
    xx4 le49 xx8964 le7 xx12 le5 xx5 hl extend hl10 xx hl13 xx hl5 xx hl xx hl2 xx hl2 xx hl10
    le98 xx33 le363 xx18 le64 xx2 le54 xx40 le12 xx4 extend16 xx3 ml xx12 extend16 xx3 ex2 xx24
    ex3 mn xx mb xx mn ml xx26 le5 xx le135 xx2 fo xx7 mb xx4 mn xx mb xx nu10 ml mn xx5 le26
    xx4 ex xx le26 xx11 ka56 extend2 le31 xx3 le6 xx2 le6 xx2 le6 xx2 le3 xx28 fo3 xx4 le12 xx
    le26 xx le19 xx le2 xx le15 xx2 le14 xx34 le123 xx69 le53 xx136 extend xx130 le29 xx3 le49
    xx15 extend xx31 le32 xx13 le30 xx5 le38 extend5 xx5 le30 xx2 le36 xx4 le8 xx le5 xx42 le158
    xx2 nu10 xx6 le36 xx4 le36 xx4 le40 xx8 le52 xx12 le11 xx le15 xx le7 xx le2 xx le11 xx le15
    xx le7 xx le2 xx3 le52 xx12 le311 xx9 le22 xx10 le8 xx24 le6 xx le42 xx le9 xx69 le6 xx2 le
    xx le44 xx le2 xx3 le xx2 le23 xx10 le23 xx9 le31 xx65 le19 xx le2 xx10 le22 xx10 le26 xx70
    le56 xx6 le2 xx64 le extend3 xx extend2 xx5 extend4 le4 xx le3 xx le29 xx2 extend3 xx4
    extend xx32 le29 xx3 le29 xx35 le8 xx le28 extend2 xx25 le54 xx10 le22 xx10 le19 xx13 le18
    xx110 le73 xx55 le51 xx13 le51 xx13 le36 extend4 xx8 nu10 xx6 nu10 le28 xx3 extend5 xx le23
    xx250 le42 xx extend2 xx3 le2 xx16 le3 xx55 extend4 le29 xx10 le xx8 le22 extend11 xx31 le18
    extend4 xx42 le21 xx27 le23 xx9 extend3 le53 extend15 xx31 nu10 extend le2 extend2 le xx9
    extend4 le45 extend11 xx2 nu xx4 extend xx10 nu xx2 le25 xx7 nu10 xx6 extend3 le36 extend14
    xx nu10 xx4 le extend2 le xx8 le35 extend xx2 le xx9 extend3 le48 extend14 le4 xx4 extend4
    xx extend2 nu10 le xx le xx35 le18 xx le25 extend12 xx6 extend le2 extend xx62 le7 xx le xx
    le4 xx le15 xx le10 xx7 le47 extend12 xx5 nu10 xx6 extend4 xx le8 xx2 le2 xx2 le22 xx le7 xx
    le2 xx le5 xx extend2 le extend7 xx2 extend2 xx2 extend3 xx2 le xx6 extend xx5 le5 extend2
    xx2 extend7 xx3 extend5 xx11 le10 xx le xx2 le xx le38 xx le extend9 xx extend xx2 extend xx
    extend4 xx extend5 le extend le xx13 extend2 xx29 le53 extend18 le4 xx5 nu10 xx4 extend le3
    xx30 le48 extend20 le2 xx le xx8 nu10 xx166 le47 extend7 xx2 extend9 xx23 le4 extend2 xx34
    le48 extend17 xx3 le xx11 nu10 xx38 le43 extend13 le xx7 nu10 xx6 nu20 xx57 extend15 xx4
    nu10 xx198 le44 extend15 xx101 le64 nu10 xx21 le8 xx2 le xx2 le8 xx le2 xx le24 extend6 xx
    extend2 xx2 extend4 le extend le extend2 xx12 nu10 xx70 le8 xx2 le39 extend7 xx2 extend7 le
    xx le extend xx27 le extend10 le40 extend7 le extend4 xx8 extend xx8 le extend11 le46
    extend16 xx3 le xx18 le73 xx199 le33 xx15 nu10 xx6 le9 xx le37 extend8 xx extend8 le xx15
    nu10 xx24 le30 xx2 extend22 xx extend14 xx73 le7 xx le2 xx le38 extend6 xx3 extend xx
    extend2 xx extend7 le extend xx8 nu10 xx6 le6 xx le2 xx le32 extend5 xx extend2 xx extend5
    le xx7 nu10 xx310 le19 extend4 xx9 extend2 le extend le13 xx le34 extend7 xx3 extend5 xx13
    nu10 extend xx85 le xx79 le922 xx102 le111 xx17 le196 xx2636 le97 xx15 le1072 fo16 extend
    le6 extend15 xx10 le3995 xx5 le583 xx6841 le30 extend18 nu10 xx1734 le569 xx7 le31 xx nu10
    xx6 le79 xx nu10 xx6 le30 xx2 extend5 xx11 le48 extend7 xx9 le4 xx12 nu10 xx9 le21 xx5 le19
    xx432 le45 xx3 nu10 xx198 le64 xx128 le75 xx4 extend le extend55 xx7 extend4 le13 xx64 le2
    xx le extend xx11 extend2 xx16382 ka4 xx ka7 xx ka2 xx ka xx287 ka3 xx50 ka xx14 ka4 xx2712
    le107 xx5 le13 xx3 le9 xx7 le10 xx3 extend2 xx fo4 xx4172 nu10 xx518 extend46 xx2 extend23
    xx542 extend5 xx3 extend6 fo8 extend8 xx2 extend7 xx30 extend4 xx148 extend3 xx443 le85 xx
    le71 xx le2 xx2 le xx2 le2 xx2 le4 xx le12 xx le xx le7 xx le65 xx le4 xx2 le8 xx le7 xx
    le28 xx le4 xx le5 xx le xx3 le7 xx le340 xx2 le25 xx le25 xx le31 xx le25 xx le31 xx le25
    xx le31 xx le25 xx le31 xx le25 xx le8 xx2 nu50 xx512 extend55 xx4 extend50 xx8 extend xx14
    extend xx22 extend5 xx extend15 xx1104 le31 xx6 le6 xx213 extend7 xx extend17 xx2 extend7 xx
    extend2 xx extend5 xx5 le62 xx33 extend xx112 le45 xx3 extend7 le7 xx2 nu10 xx4 le xx321
    le30 extend xx17 le44 extend4 nu10 xx470 le28 extend4 nu10 xx214 le30 extend2 le nu10 xx485
    le7 xx le4 xx le2 xx le15 xx le197 xx11 extend7 xx41 le68 extend7 le xx4 nu10 xx1190 le4 xx
    le27 xx le2 xx le xx2 le xx le10 xx le4 xx le xx le xx6 le xx4 le xx le xx le xx le3 xx le2
    xx le xx2 le xx le xx le xx le xx le xx le2 xx le xx2 le4 xx le7 xx le4 xx le4 xx le xx le10
    xx le17 xx5 le3 xx le5 xx le17 xx628 le26 xx6 le26 xx6 le26 xx92 ri26 xx507 extend5 xx2032
    nu10 xx787463 fo xx30 extend96 xx128 extend240"

/-- The property Sentence_Break. -/
def sentenceBreaks : ValueTable where
  names :=
    [["at", "aterm"], ["cl", "close"], ["cr"], ["ex", "extend"], ["fo", "format"],
     ["le", "oletter"], ["lf"], ["lo", "lower"], ["nu", "numeric"], ["sc", "scontinue"],
     ["se", "sep"], ["sp"], ["st", "sterm"], ["up", "upper"]]
  runs :=
    "xx9 sp lf sp2 cr xx18 sp st cl xx4 cl3 xx2 sc2 at xx nu10 sc2 xx3 st xx up26 cl xx cl xx3
    lo26 cl xx cl xx7 se xx26 sp xx9 lo cl xx fo xx7 lo xx4 lo cl xx4 up23 xx up7 lo24 xx lo8 up
    lo up lo up lo up lo up lo up lo up lo up lo up lo up lo up lo up lo up lo up lo up lo up lo
    up lo up lo up lo up lo up lo up lo up lo up lo up lo up lo up lo up lo2 up lo up lo up lo
    up lo up lo up lo up lo up lo2 up lo up lo up lo up lo up lo up lo up lo up lo up lo up lo
    up lo up lo up lo up lo up lo up lo up lo up lo up lo up lo up lo up lo up lo up2 lo up lo
    up lo3 up2 lo up lo up2 lo up3 lo2 up4 lo up2 lo up3 lo3 up2 lo up2 lo up lo up lo up2 lo up
    lo2 up lo up2 lo up3 lo up lo up2 lo2 le up lo3 le4 up2 lo up2 lo up2 lo up lo up lo up lo
    up lo up lo up lo up lo up lo2 up lo up lo up lo up lo up lo up lo up lo up lo up lo2 up2 lo
    up lo up3 lo up lo up lo up lo up lo up lo up lo up lo up lo up lo up lo up lo up lo up lo
    up lo up lo up lo up lo up lo up lo up lo up lo up lo up lo up lo up lo up lo up lo up lo up
    lo7 up2 lo up2 lo2 up lo up4 lo up lo up lo up lo up lo69 le lo36 le7 lo2 xx4 le12 xx14 lo5
    xx7 le xx le xx17 ex112 up lo up lo le xx up lo xx2 lo4 sc up xx6 up xx up3 xx up xx up2 lo
    up17 xx up9 lo35 up lo2 up3 lo3 up lo up lo up lo up lo up lo up lo up lo up lo up lo up lo
    up lo up lo5 up lo xx up lo up2 lo2 up51 lo48 up lo up lo up lo up lo up lo up lo up lo up
    lo up lo up lo up lo up lo up lo up lo up lo up lo up lo xx ex7 up lo up lo up lo up lo up
    lo up lo up lo up lo up lo up lo up lo up lo up lo up lo up lo up lo up lo up lo up lo up lo
    up lo up lo up lo up lo up lo up lo up lo up2 lo up lo up lo up lo up lo up lo up lo2 up lo
    up lo up lo up lo up lo up lo up lo up lo up lo up lo up lo up lo up lo up lo up lo up lo up
    lo up lo up lo up lo up lo up lo up lo up lo up lo up lo up lo up lo up lo up lo up lo up lo
    up lo up lo up lo up lo up lo up lo up lo up lo up lo up lo up lo up lo up lo up lo up lo up
    lo xx up38 xx2 le xx3 sc xx2 lo41 st xx7 ex45 xx ex xx ex2 xx ex2 xx ex xx8 le27 xx4 le5
    xx12 nu6 xx6 sc2 xx2 ex11 xx fo st3 le43 ex21 nu10 xx nu2 xx le2 ex le99 st le ex7 nu xx ex6
    le2 ex2 xx ex4 le2 nu10 le3 xx2 le st3 xx12 fo le ex le30 ex27 xx2 le89 ex11 le xx14 nu10
    le33 ex9 le2 xx2 sc st le xx2 ex xx2 le22 ex4 le ex9 le ex3 le ex5 xx9 st xx st xx3 st2 xx
    le25 ex3 xx4 le11 xx5 le24 xx le6 xx nu2 xx5 ex9 le42 ex24 nu ex33 le54 ex3 le ex18 le ex7
    le10 ex2 st2 nu10 xx le16 ex3 xx le8 xx2 le2 xx2 le22 xx le7 xx le xx3 le4 xx2 ex le ex7 xx2
    ex2 xx2 ex3 le xx8 ex xx4 le2 xx le3 ex2 xx2 nu10 le2 xx10 le xx ex xx2 ex3 xx le6 xx4 le2
    xx2 le22 xx le7 xx le2 xx le2 xx le2 xx2 ex xx ex5 xx4 ex2 xx2 ex3 xx3 ex xx7 le4 xx le xx7
    nu10 ex2 le3 ex xx11 ex3 xx le9 xx le3 xx le22 xx le7 xx le2 xx le5 xx2 ex le ex8 xx ex3 xx
    ex3 xx2 le xx15 le2 ex2 xx2 nu10 xx9 le ex6 xx ex3 xx le8 xx2 le2 xx2 le22 xx le7 xx le2 xx
    le5 xx2 ex le ex7 xx2 ex2 xx2 ex3 xx7 ex3 xx4 le2 xx le3 ex2 xx2 nu10 xx le xx16 ex le xx
    le6 xx3 le3 xx le4 xx3 le2 xx le xx le2 xx3 le2 xx3 le3 xx3 le12 xx4 ex5 xx3 ex3 xx ex4 xx2
    le xx6 ex xx14 nu10 xx16 ex5 le8 xx le3 xx le23 xx le16 xx2 ex le ex7 xx ex3 xx ex4 xx7 ex2
    xx le3 xx2 le xx2 le2 ex2 xx2 nu10 xx16 le ex3 xx le8 xx le3 xx le23 xx le10 xx le5 xx2 ex
    le ex7 xx ex3 xx ex4 xx7 ex2 xx6 le2 xx le2 ex2 xx2 nu10 xx le2 ex xx12 ex4 le9 xx le3 xx
    le41 ex2 le ex7 xx ex3 xx ex4 le xx5 le3 ex xx7 le3 ex2 xx2 nu10 xx10 le6 xx ex3 xx le18 xx3
    le24 xx le9 xx le xx2 le7 xx3 ex xx4 ex6 xx ex xx ex8 xx6 nu10 xx2 ex2 xx13 le48 ex le2 ex7
    xx5 le7 ex8 xx nu10 xx39 le2 xx le xx le5 xx le24 xx le xx le10 ex le2 ex9 le xx2 le5 xx le
    xx ex7 xx nu10 xx2 le4 xx32 le xx23 ex2 xx6 nu10 xx11 ex xx ex xx ex cl4 ex2 le8 xx le36 xx4
    ex20 xx ex2 le5 ex11 xx ex36 xx9 ex xx57 le43 ex20 le nu10 st2 xx4 le6 ex4 le4 ex3 le ex3
    le2 ex7 le3 ex4 le13 ex12 le ex nu10 ex4 xx2 up38 xx up xx5 up xx2 le43 xx lo le332 xx le4
    xx2 le7 xx le xx le4 xx2 le41 xx le4 xx2 le33 xx le4 xx2 le7 xx le xx le4 xx2 le15 xx le57
    xx le4 xx2 le67 xx2 ex3 xx2 st xx4 st2 xx23 le16 xx16 up86 xx2 lo6 xx3 le620 xx st le17 sp
    le26 cl2 xx3 le75 xx3 le11 xx7 le18 ex4 xx9 le19 ex3 st2 xx9 le18 ex2 xx12 le13 xx le3 xx
    ex2 xx12 le52 ex32 st2 xx le xx4 le ex xx2 nu10 xx24 sc st xx4 sc st xx ex3 fo ex nu10 xx6
    le89 xx7 le5 ex2 le34 ex le xx5 le70 xx10 le31 xx ex12 xx4 ex12 xx8 st2 nu10 le30 xx2 le5
    xx11 le44 xx4 le26 xx6 nu11 xx37 le23 ex5 xx4 le53 ex10 xx ex29 xx2 ex nu10 xx6 nu10 xx13 le
    st4 xx4 ex31 xx49 ex5 le47 ex17 le8 xx st2 nu10 st2 xx2 st2 xx11 ex9 xx9 st3 ex3 le30 ex13
    le2 nu10 le44 ex14 xx12 le36 ex20 xx3 st2 xx3 nu10 xx3 le3 nu10 le36 st2 lo9 up lo xx5 le43
    xx2 le3 xx16 ex3 xx ex21 le4 ex le6 ex le2 ex3 le xx5 lo192 ex64 up lo up lo up lo up lo up
    lo up lo up lo up lo up lo up lo up lo up lo up lo up lo up lo up lo up lo up lo up lo up lo
    up lo up lo up lo up lo up lo up lo up lo up lo up lo up lo up lo up lo up lo up lo up lo up
    lo up lo up lo up lo up lo up lo up lo up lo up lo up lo up lo up lo up lo up lo up lo up lo
    up lo up lo up lo up lo up lo up lo up lo up lo up lo up lo up lo up lo up lo up lo up lo up
    lo up lo up lo up lo up lo up lo up lo up lo up lo9 up lo up lo up lo up lo up lo up lo up
    lo up lo up lo up lo up lo up lo up lo up lo up lo up lo up lo up lo up lo up lo up lo up lo
    up lo up lo up lo up lo up lo up lo up lo up lo up lo up lo up lo up lo up lo up lo up lo up
    lo up lo up lo up lo up lo up lo up lo up lo up lo up lo up lo up lo9 up8 lo6 xx2 up6 xx2
    lo8 up8 lo8 up8 lo6 xx2 up6 xx2 lo8 xx up xx up xx up xx up lo8 up8 lo14 xx2 lo8 up8 lo8 up8
    lo8 up8 lo5 xx lo2 up5 xx lo xx3 lo3 xx lo2 up5 xx3 lo4 xx2 lo2 up4 xx4 lo8 up5 xx5 lo3 xx
    lo2 up5 xx3 sp11 fo ex2 fo2 xx3 sc2 xx3 cl8 xx4 at xx3 se2 fo5 sp xx9 cl2 xx st2 xx7 cl2 st3
    xx21 sp fo5 xx fo10 xx lo xx11 cl2 lo xx13 cl2 xx lo13 xx51 ex33 xx17 up xx4 up xx2 lo up3
    lo2 up3 lo xx up xx3 up5 xx6 up xx up xx up xx up4 xx lo up4 lo le4 lo xx2 lo2 up2 xx5 up
    lo4 xx4 lo xx17 up16 lo16 le3 up lo le4 xx383 cl4 xx29 cl2 xx395 up26 lo26 xx625 cl6 xx7
    cl14 xx79 cl2 xx31 cl10 xx403 cl22 xx63 cl4 xx32 cl2 xx514 up48 lo48 up lo up3 lo2 up lo up
    lo up lo up4 lo up lo2 up lo8 up3 lo up lo up lo up lo up lo up lo up lo up lo up lo up lo
    up lo up lo up lo up lo up lo up lo up lo up lo up lo up lo up lo up lo up lo up lo up lo up
    lo up lo up lo up lo up lo up lo up lo up lo up lo up lo up lo up lo up lo up lo up lo up lo
    up lo up lo up lo up lo up lo up lo up lo up lo up lo2 xx6 up lo up lo ex3 up lo xx5 st3 xx4
    lo38 xx lo xx5 lo xx2 le56 xx7 le xx15 ex le23 xx9 le7 xx le7 xx le7 xx le7 xx le7 xx le7 xx
    le7 xx le7 xx ex32 cl14 xx14 cl2 xx2 cl10 xx4 st le xx12 st xx5 cl xx16 st2 cl8 xx419 sp sc
    st xx2 le3 cl10 xx2 cl8 xx cl3 xx le9 ex6 xx le5 xx2 le5 xx4 le86 xx2 ex2 xx2 le3 xx le90 xx
    le4 xx5 le43 xx le94 xx17 le32 xx48 le16 xx512 le6592 xx64 le22157 xx67 le46 xx st le269 xx
    st2 le16 nu10 le2 xx20 up lo up lo up lo up lo up lo up lo up lo up lo up lo up lo up lo up
    lo up lo up lo up lo up lo up lo up lo up lo up lo up lo up lo up lo le ex4 xx ex10 xx le up
    lo up lo up lo up lo up lo up lo up lo up lo up lo up lo up lo up lo up lo up lo3 ex2 le80
    ex2 xx st xx3 st xx31 le9 xx2 up lo up lo up lo up lo up lo up lo up lo3 up lo up lo up lo
    up lo up lo up lo up lo up lo up lo up lo up lo up lo up lo up lo up lo up lo up lo up lo up
    lo up lo up lo up lo up lo up lo up lo up lo up lo up lo up lo up lo up lo10 up lo up lo up2
    lo up lo up lo up lo up lo le xx2 up lo up lo le up lo up lo3 up lo up lo up lo up lo up lo
    up lo up lo up lo up lo up lo up5 lo up5 lo up lo up lo up lo up lo up lo up lo up lo up4 lo
    up lo up2 lo xx2 up lo xx lo xx lo up lo up lo up lo up xx21 lo3 up lo le lo3 le7 ex le3 ex
    le4 ex le23 ex5 xx4 ex xx19 le52 xx2 st2 xx8 ex2 le50 ex18 xx8 st2 nu10 xx6 ex18 le6 xx3 le
    xx le2 ex nu10 le28 ex8 xx st le23 ex13 xx12 le29 xx3 ex4 le47 ex14 xx7 st2 xx5 le nu10 xx6
    le5 ex le10 nu10 le5 xx le41 ex14 xx9 le3 ex le8 ex2 xx2 nu10 xx3 st3 le23 xx3 le ex3 le50
    ex le ex3 le2 ex2 le5 ex2 le ex le xx24 le3 xx2 le11 ex5 st2 le3 ex2 xx10 le6 xx2 le6 xx2
    le6 xx9 le7 xx le7 xx lo43 xx lo14 xx6 lo80 le35 ex8 st ex2 xx2 nu10 xx6 le11172 xx12 le23
    xx4 le49 xx8452 le366 xx2 le106 xx38 lo7 xx12 lo5 xx5 le ex le10 xx le13 xx le5 xx le xx le2
    xx le2 xx le108 xx33 le363 cl2 xx16 le64 xx2 le54 xx40 le12 xx4 ex16 sc2 st sc2 st2 cl2 xx7
    ex16 xx sc2 xx2 cl16 xx2 cl2 xx7 sc2 at xx sc2 st2 sc cl6 xx4 sc xx12 le5 xx le135 xx2 fo xx
    st xx6 cl2 xx2 sc2 at xx nu10 sc2 xx3 st xx up26 cl xx cl xx3 lo26 cl xx cl xx cl2 st cl2 sc
    xx le56 ex2 le31 xx3 le6 xx2 le6 xx2 le6 xx2 le3 xx28 fo3 xx4 le12 xx le26 xx le19 xx le2 xx
    le15 xx2 le14 xx34 le123 xx69 le53 xx136 ex xx130 le29 xx3 le49 xx15 ex xx31 le32 xx13 le30
    xx5 le38 ex5 xx5 le30 xx2 le36 xx4 le8 xx le5 xx42 up40 lo40 le78 xx2 nu10 xx6 up36 xx4 lo36
    xx4 le40 xx8 le52 xx12 up11 xx up15 xx up7 xx up2 xx lo11 xx lo15 xx lo7 xx lo2 xx3 le52
    xx12 le311 xx9 le22 xx10 le8 xx24 lo le2 lo3 xx lo42 xx lo9 xx69 le6 xx2 le xx le44 xx le2
    xx3 le xx2 le23 xx10 le23 xx9 le31 xx65 le19 xx le2 xx10 le22 xx10 le26 xx70 le56 xx6 le2
    xx64 le ex3 xx ex2 xx5 ex4 le4 xx le3 xx le29 xx2 ex3 xx4 ex xx22 st2 xx8 le29 xx3 le29 xx35
    le8 xx le28 ex2 xx25 le54 xx10 le22 xx10 le19 xx13 le18 xx110 le73 xx55 up51 xx13 lo51 xx13
    le36 ex4 xx8 nu10 xx6 nu10 le6 up22 xx3 ex5 xx le lo22 xx250 le42 xx ex2 xx3 le2 xx16 le3
    xx55 ex4 le29 xx10 le xx8 le22 ex11 xx4 st5 xx22 le18 ex4 st4 xx38 le21 xx27 le23 xx9 ex3
    le53 ex15 st2 xx29 nu10 ex le2 ex2 le xx9 ex4 le45 ex11 xx2 nu st4 ex xx10 nu xx2 le25 xx7
    nu10 xx6 ex3 le36 ex14 xx nu10 xx st3 le ex2 le xx8 le35 ex xx2 le xx9 ex3 le48 ex14 le4 st2
    xx2 ex4 st ex2 nu10 le xx le xx st2 xx32 le18 xx le25 ex12 st2 xx st2 xx ex le2 ex xx62 le7
    xx le xx le4 xx le15 xx le10 st xx6 le47 ex12 xx5 nu10 xx6 ex4 xx le8 xx2 le2 xx2 le22 xx
    le7 xx le2 xx le5 xx ex2 le ex7 xx2 ex2 xx2 ex3 xx2 le xx6 ex xx5 le5 ex2 xx2 ex7 xx3 ex5
    xx11 le10 xx le xx2 le xx le38 xx le ex9 xx ex xx2 ex xx ex4 xx ex5 le ex le st2 xx11 ex2
    xx29 le53 ex18 le4 st2 xx3 nu10 xx4 ex le3 xx30 le48 ex20 le2 xx le xx8 nu10 xx166 le47 ex7
    xx2 ex9 xx st2 xx5 st15 le4 ex2 xx34 le48 ex17 st2 xx le xx11 nu10 xx38 le43 ex13 le xx7
    nu10 xx6 nu20 xx28 le27 xx2 ex15 xx4 nu10 xx2 st3 xx le7 xx185 le44 ex15 xx101 up32 lo32
    nu10 xx21 le8 xx2 le xx2 le8 xx le2 xx le24 ex6 xx ex2 xx2 ex4 le ex le ex2 st xx st xx9
    nu10 xx70 le8 xx2 le39 ex7 xx2 ex7 le xx le ex xx27 le ex10 le40 ex7 le ex4 xx3 st2 xx3 ex
    xx8 le ex11 le46 ex16 xx st2 le xx18 le73 xx199 le33 xx15 nu10 xx6 le9 xx le37 ex8 xx ex8 le
    st2 xx13 nu10 xx24 le30 xx2 ex22 xx ex14 xx73 le7 xx le2 xx le38 ex6 xx3 ex xx ex2 xx ex7 le
    ex xx8 nu10 xx6 le6 xx le2 xx le32 ex5 xx ex2 xx ex5 le xx7 nu10 xx310 le19 ex4 st2 xx7 ex2
    le ex le13 xx le34 ex7 xx3 ex5 st2 xx11 nu10 ex xx85 le xx79 le922 xx102 le111 xx17 le196
    xx2636 le97 xx15 le1072 fo16 ex le6 ex15 xx10 le3995 xx5 le583 xx6841 le30 ex18 nu10 xx1734
    le569 xx7 le31 xx nu10 xx4 st2 le79 xx nu10 xx6 le30 xx2 ex5 st xx10 le48 ex7 st2 xx7 le4 st
    xx11 nu10 xx9 le21 xx5 le19 xx432 le45 xx st2 nu10 xx198 up32 lo32 xx24 st xx103 le75 xx4 ex
    le ex55 xx7 ex4 le13 xx64 le2 xx le ex xx11 ex2 xx14 le6136 xx8 le1238 xx41 le10 xx8935 le4
    xx le7 xx le2 xx le291 xx15 le xx29 le3 xx2 le xx14 le4 xx8 le396 xx2308 le107 xx5 le13 xx3
    le9 xx7 le10 xx3 ex2 st fo4 xx4172 nu10 xx518 ex46 xx2 ex23 xx542 ex5 xx3 ex6 fo8 ex8 xx2
    ex7 xx30 ex4 xx148 ex3 xx443 up26 lo26 up26 lo7 xx lo18 up26 lo26 up xx up2 xx2 up xx2 up2
    xx2 up4 xx up8 lo4 xx lo xx lo7 xx lo11 up26 lo26 up2 xx up4 xx2 up8 xx up7 xx lo26 up2 xx
    up4 xx up5 xx up xx3 up7 xx lo26 up26 lo26 up26 lo26 up26 lo26 up26 lo26 up26 lo26 up26 lo28
    xx2 up25 xx lo25 xx lo6 up25 xx lo25 xx lo6 up25 xx lo25 xx lo6 up25 xx lo25 xx lo6 up25 xx
    lo25 xx lo6 up lo xx2 nu50 xx512 ex55 xx4 ex50 xx8 ex xx14 ex xx3 st xx18 ex5 xx ex15 xx1104
    lo10 le lo20 xx6 lo6 xx213 ex7 xx ex17 xx2 ex7 xx ex2 xx ex5 xx5 lo62 xx33 ex xx112 le45 xx3
    ex7 le7 xx2 nu10 xx4 le xx321 le30 ex xx17 le44 ex4 nu10 xx470 le28 ex4 nu10 xx214 le30 ex2
    le nu10 xx485 le7 xx le4 xx le2 xx le15 xx le197 xx11 ex7 xx41 up34 lo34 ex7 le xx4 nu10
    xx1190 le4 xx le27 xx le2 xx le xx2 le xx le10 xx le4 xx le xx le xx6 le xx4 le xx le xx le
    xx le3 xx le2 xx le xx2 le xx le xx le xx le xx le xx le2 xx le xx2 le4 xx le7 xx le4 xx le4
    xx le xx le10 xx le17 xx5 le3 xx le5 xx le17 xx628 up26 xx6 up26 xx6 up26 xx1260 cl3 xx1399
    nu10 xx1030 le42720 xx32 le4154 xx6 le222 xx2 le5762 xx14 le7473 xx15 le622 xx2466 le542
    xx1506 le4939 xx5 le4192 xx711761 fo xx30 ex96 xx128 ex240"

end HeaderBindings.Pattern.Property
