import HeaderBindings.Pattern.CharSet.Runs

/-!
# The general categories of characters

Every code point has one general category. Surrogates have one of their own, which has no name here
since they are no characters.
-/

namespace HeaderBindings.Pattern.Property

/-- The general categories. -/
def categories : ValueTable where
  names :=
    [["lu", "uppercaseletter"], ["ll", "lowercaseletter"], ["lt", "titlecaseletter"],
     ["lm", "modifierletter"], ["lo", "otherletter"], ["mn", "nonspacingmark"],
     ["mc", "spacingmark"], ["me", "enclosingmark"], ["nd", "digit", "decimalnumber"],
     ["nl", "letternumber"], ["no", "othernumber"], ["pc", "connectorpunctuation"],
     ["pd", "dashpunctuation"], ["ps", "openpunctuation"], ["pe", "closepunctuation"],
     ["pi", "initialpunctuation"], ["pf", "finalpunctuation"], ["po", "otherpunctuation"],
     ["sm", "mathsymbol"], ["sc", "currencysymbol"], ["sk", "modifiersymbol"],
     ["so", "othersymbol"], ["zs", "spaceseparator"], ["zl", "lineseparator"],
     ["zp", "paragraphseparator"], ["cc", "cntrl", "control"], ["cf", "format"],
     ["co", "privateuse"], ["cn", "unassigned"]]
  runs :=
    "cc32 zs po3 sc po3 ps pe po sm po pd po2 nd10 po2 sm3 po2 lu26 ps po pe sk pc sk ll26 ps sm
    pe sm cc33 zs po sc4 so po sk so lo pi sm cf so sk so sm no2 sk ll po2 sk no lo pf no3 po
    lu23 sm lu7 ll24 sm ll8 lu ll lu ll lu ll lu ll lu ll lu ll lu ll lu ll lu ll lu ll lu ll lu
    ll lu ll lu ll lu ll lu ll lu ll lu ll lu ll lu ll lu ll lu ll lu ll lu ll lu ll lu ll lu ll
    lu ll2 lu ll lu ll lu ll lu ll lu ll lu ll lu ll lu ll2 lu ll lu ll lu ll lu ll lu ll lu ll
    lu ll lu ll lu ll lu ll lu ll lu ll lu ll lu ll lu ll lu ll lu ll lu ll lu ll lu ll lu ll lu
    ll lu ll lu2 ll lu ll lu ll3 lu2 ll lu ll lu2 ll lu3 ll2 lu4 ll lu2 ll lu3 ll3 lu2 ll lu2 ll
    lu ll lu ll lu2 ll lu ll2 lu ll lu2 ll lu3 ll lu ll lu2 ll2 lo lu ll3 lo4 lu lt ll lu lt ll
    lu lt ll lu ll lu ll lu ll lu ll lu ll lu ll lu ll lu ll2 lu ll lu ll lu ll lu ll lu ll lu
    ll lu ll lu ll lu ll2 lu lt ll lu ll lu3 ll lu ll lu ll lu ll lu ll lu ll lu ll lu ll lu ll
    lu ll lu ll lu ll lu ll lu ll lu ll lu ll lu ll lu ll lu ll lu ll lu ll lu ll lu ll lu ll lu
    ll lu ll lu ll lu ll lu ll lu ll7 lu2 ll lu2 ll2 lu ll lu4 ll lu ll lu ll lu ll lu ll69 lo
    ll27 lm18 sk4 lm12 sk14 lm5 sk7 lm sk lm sk17 mn112 lu ll lu ll lm sk lu ll cn2 lm ll3 po lu
    cn4 sk2 lu po lu3 cn lu cn lu2 ll lu17 cn lu9 ll35 lu ll2 lu3 ll3 lu ll lu ll lu ll lu ll lu
    ll lu ll lu ll lu ll lu ll lu ll lu ll lu ll5 lu ll sm lu ll lu2 ll2 lu51 ll48 lu ll lu ll
    lu ll lu ll lu ll lu ll lu ll lu ll lu ll lu ll lu ll lu ll lu ll lu ll lu ll lu ll lu ll so
    mn5 me2 lu ll lu ll lu ll lu ll lu ll lu ll lu ll lu ll lu ll lu ll lu ll lu ll lu ll lu ll
    lu ll lu ll lu ll lu ll lu ll lu ll lu ll lu ll lu ll lu ll lu ll lu ll lu ll lu2 ll lu ll
    lu ll lu ll lu ll lu ll lu ll2 lu ll lu ll lu ll lu ll lu ll lu ll lu ll lu ll lu ll lu ll
    lu ll lu ll lu ll lu ll lu ll lu ll lu ll lu ll lu ll lu ll lu ll lu ll lu ll lu ll lu ll lu
    ll lu ll lu ll lu ll lu ll lu ll lu ll lu ll lu ll lu ll lu ll lu ll lu ll lu ll lu ll lu ll
    lu ll lu ll lu ll lu ll lu ll lu ll lu ll cn lu38 cn2 lm po6 ll41 po pd cn2 so2 sc cn mn45
    pd mn po mn2 po mn2 po mn cn8 lo27 cn4 lo4 po2 cn11 cf6 sm3 po2 sc po2 so2 mn11 po cf po3
    lo32 lm lo10 mn21 nd10 po4 lo2 mn lo99 po lo mn7 cf so mn6 lm2 mn2 so mn4 lo2 nd10 lo3 so2
    lo po14 cn cf lo mn lo30 mn27 cn2 lo89 mn11 lo cn14 nd10 lo33 mn9 lm2 so po3 lm cn2 mn sc2
    lo22 mn4 lm mn9 lm mn3 lm mn5 cn2 po15 cn lo25 mn3 cn2 po cn lo11 cn5 lo24 sk lo6 cn cf2 cn5
    mn9 lo41 lm mn24 cf mn32 mc lo54 mn mc mn lo mc3 mn8 mc4 mn mc2 lo mn7 lo10 mn2 po2 nd10 po
    lm lo15 mn mc2 cn lo8 cn2 lo2 cn2 lo22 cn lo7 cn lo cn3 lo4 cn2 mn lo mc3 mn4 cn2 mc2 cn2
    mc2 mn lo cn8 mc cn4 lo2 cn lo3 mn2 cn2 nd10 lo2 sc2 no6 so sc lo po mn cn2 mn2 mc cn lo6
    cn4 lo2 cn2 lo22 cn lo7 cn lo2 cn lo2 cn lo2 cn2 mn cn mc3 mn2 cn4 mn2 cn2 mn3 cn3 mn cn7
    lo4 cn lo cn7 nd10 mn2 lo3 mn po cn10 mn2 mc cn lo9 cn lo3 cn lo22 cn lo7 cn lo2 cn lo5 cn2
    mn lo mc3 mn5 cn mn2 mc cn mc2 mn cn2 lo cn15 lo2 mn2 cn2 nd10 po sc cn7 lo mn6 cn mn mc2 cn
    lo8 cn2 lo2 cn2 lo22 cn lo7 cn lo2 cn lo5 cn2 mn lo mc mn mc mn4 cn2 mc2 cn2 mc2 mn cn7 mn2
    mc cn4 lo2 cn lo3 mn2 cn2 nd10 so lo no6 cn10 mn lo cn lo6 cn3 lo3 cn lo4 cn3 lo2 cn lo cn
    lo2 cn3 lo2 cn3 lo3 cn3 lo12 cn4 mc2 mn mc2 cn3 mc3 cn mc3 mn cn2 lo cn6 mc cn14 nd10 no3
    so6 sc so cn5 mn mc3 mn lo8 cn lo3 cn lo23 cn lo16 cn2 mn lo mn3 mc4 cn mn3 cn mn4 cn7 mn2
    cn lo3 cn2 lo cn2 lo2 mn2 cn2 nd10 cn7 po no7 so lo mn mc2 po lo8 cn lo3 cn lo23 cn lo10 cn
    lo5 cn2 mn lo mc mn mc5 cn mn mc2 cn mc2 mn2 cn7 mc2 cn6 lo2 cn lo2 mn2 cn2 nd10 cn lo2 mc
    cn12 mn2 mc2 lo9 cn lo3 cn lo41 mn2 lo mc3 mn4 cn mc3 cn mc3 mn lo so cn4 lo3 mc no7 lo3 mn2
    cn2 nd10 no9 so lo6 cn mn mc2 cn lo18 cn3 lo24 cn lo9 cn lo cn2 lo7 cn3 mn cn4 mc3 mn3 cn mn
    cn mc8 cn6 nd10 cn2 mc2 po cn12 lo48 mn lo2 mn7 cn4 sc lo6 lm mn8 po nd10 po2 cn37 lo2 cn lo
    cn lo5 cn lo24 cn lo cn lo10 mn lo2 mn9 lo cn2 lo5 cn lm cn mn7 cn nd10 cn2 lo4 cn32 lo so3
    po15 so po so3 mn2 so6 nd10 no10 so mn so mn so mn ps pe ps pe mc2 lo8 cn lo36 cn4 mn14 mc
    mn5 po mn2 lo5 mn11 cn mn36 cn so8 mn so6 cn so2 po5 so4 po2 cn37 lo43 mc2 mn4 mc mn6 mc mn2
    mc2 mn2 lo nd10 po6 lo6 mc2 mn2 lo4 mn3 lo mc3 lo2 mc7 lo3 mn4 lo13 mn mc2 mn2 mc6 mn lo mc
    nd10 mc3 mn so2 lu38 cn lu cn5 lu cn2 ll43 po lm ll3 lo329 cn lo4 cn2 lo7 cn lo cn lo4 cn2
    lo41 cn lo4 cn2 lo33 cn lo4 cn2 lo7 cn lo cn lo4 cn2 lo15 cn lo57 cn lo4 cn2 lo67 cn2 mn3
    po9 no20 cn3 lo16 so10 cn6 lu86 cn2 ll6 cn2 pd lo620 so po lo17 zs lo26 ps pe cn3 lo75 po3
    nl3 lo8 cn7 lo18 mn3 mc cn9 lo19 mn2 mc po2 cn9 lo18 mn2 cn12 lo13 cn lo3 cn mn2 cn12 lo52
    mn2 mc mn7 mc8 mn mc2 mn11 po3 lm po3 sc lo mn cn2 nd10 cn6 no10 cn6 po6 pd po4 mn3 cf mn
    nd10 cn6 lo35 lm lo53 cn7 lo5 mn2 lo34 mn lo cn5 lo70 cn10 lo31 cn mn3 mc4 mn2 mc3 cn4 mc2
    mn mc6 mn3 cn4 so cn3 po2 nd10 lo30 cn2 lo5 cn11 lo44 cn4 lo26 cn6 nd10 no cn3 so34 lo23 mn2
    mc2 mn cn2 po2 lo53 mc mn mc mn7 cn mn mc mn mc2 mn8 mc6 mn10 cn2 mn nd10 cn6 nd10 cn6 po7
    lm po6 cn2 mn14 me mn16 cn49 mn4 mc lo47 mn mc mn5 mc mn mc5 mn mc2 lo8 cn po2 nd10 po7 so10
    mn9 so9 po3 mn2 mc lo30 mc mn4 mc2 mn2 mc mn3 lo2 nd10 lo44 mn mc mn2 mc3 mn mc mn3 mc2 cn8
    po4 lo36 mc8 mn8 mc2 mn2 cn3 po5 nd10 cn3 lo3 nd10 lo30 lm6 po2 ll9 lu ll cn5 lu43 cn2 lu3
    po8 cn8 mn3 po mn13 mc mn7 lo4 mn lo6 mn lo2 mc mn2 lo cn5 ll44 lm63 ll13 lm ll34 lm37 mn64
    lu ll lu ll lu ll lu ll lu ll lu ll lu ll lu ll lu ll lu ll lu ll lu ll lu ll lu ll lu ll lu
    ll lu ll lu ll lu ll lu ll lu ll lu ll lu ll lu ll lu ll lu ll lu ll lu ll lu ll lu ll lu ll
    lu ll lu ll lu ll lu ll lu ll lu ll lu ll lu ll lu ll lu ll lu ll lu ll lu ll lu ll lu ll lu
    ll lu ll lu ll lu ll lu ll lu ll lu ll lu ll lu ll lu ll lu ll lu ll lu ll lu ll lu ll lu ll
    lu ll lu ll lu ll lu ll lu ll lu ll lu ll lu ll lu ll lu ll lu ll lu ll lu ll9 lu ll lu ll
    lu ll lu ll lu ll lu ll lu ll lu ll lu ll lu ll lu ll lu ll lu ll lu ll lu ll lu ll lu ll lu
    ll lu ll lu ll lu ll lu ll lu ll lu ll lu ll lu ll lu ll lu ll lu ll lu ll lu ll lu ll lu ll
    lu ll lu ll lu ll lu ll lu ll lu ll lu ll lu ll lu ll lu ll lu ll lu ll lu ll lu ll lu ll lu
    ll9 lu8 ll6 cn2 lu6 cn2 ll8 lu8 ll8 lu8 ll6 cn2 lu6 cn2 ll8 cn lu cn lu cn lu cn lu ll8 lu8
    ll14 cn2 ll8 lt8 ll8 lt8 ll8 lt8 ll5 cn ll2 lu4 lt sk ll sk3 ll3 cn ll2 lu4 lt sk3 ll4 cn2
    ll2 lu4 cn sk3 ll8 lu5 sk3 cn2 ll3 cn ll2 lu4 lt sk2 cn zs11 cf5 pd6 po2 pi pf ps pi2 pf ps
    pi po8 zl zp cf5 zs po9 pi pf po4 pc2 po3 sm ps pe po11 sm po pc po10 zs cf5 cn cf10 no lm
    cn2 no6 sm3 ps pe lm no10 sm3 ps pe cn lm13 cn3 sc33 cn15 mn13 me4 mn me3 mn12 cn15 so2 lu
    so4 lu so2 ll lu3 ll2 lu3 ll so lu so2 sm lu5 so6 lu so lu so lu so lu4 so ll lu4 ll lo4 ll
    so2 ll2 lu2 sm5 lu ll4 so sm so2 ll so no16 nl35 lu ll nl4 no so2 cn4 sm5 so5 sm2 so4 sm so2
    sm so2 sm so7 sm so31 sm2 so2 sm so sm so31 sm268 so8 ps pe ps pe so20 sm2 so7 ps pe so81 sm
    so30 sm25 so40 sm6 so72 cn22 so11 cn21 no60 so78 no22 so183 sm so9 sm so54 sm8 so111 sm
    so248 ps pe ps pe ps pe ps pe ps pe ps pe ps pe no30 so44 sm5 ps pe sm31 ps pe ps pe ps pe
    ps pe ps pe sm16 so256 sm131 ps pe ps pe ps pe ps pe ps pe ps pe ps pe ps pe ps pe ps pe ps
    pe sm63 ps pe ps pe sm32 ps pe sm258 so48 sm21 so2 sm6 so39 cn2 so32 cn so105 lu48 ll48 lu
    ll lu3 ll2 lu ll lu ll lu ll lu4 ll lu ll2 lu ll6 lm2 lu3 ll lu ll lu ll lu ll lu ll lu ll
    lu ll lu ll lu ll lu ll lu ll lu ll lu ll lu ll lu ll lu ll lu ll lu ll lu ll lu ll lu ll lu
    ll lu ll lu ll lu ll lu ll lu ll lu ll lu ll lu ll lu ll lu ll lu ll lu ll lu ll lu ll lu ll
    lu ll lu ll lu ll lu ll lu ll lu ll lu ll lu ll lu ll lu ll lu ll lu ll lu ll2 so6 lu ll lu
    ll mn3 lu ll cn5 po4 no po2 ll38 cn ll cn5 ll cn2 lo56 cn7 lm po cn14 mn lo23 cn9 lo7 cn lo7
    cn lo7 cn lo7 cn lo7 cn lo7 cn lo7 cn lo7 cn mn32 po2 pi pf pi pf po3 pi pf po pi pf po9 pd
    po2 pd po pi pf po2 pi pf ps pe ps pe ps pe ps pe po5 lm po10 pd2 po4 pd po ps po13 so2 po3
    ps pe ps pe ps pe ps pe pd cn34 so26 cn so89 cn12 so214 cn26 so16 zs po3 so lm lo nl ps pe
    ps pe ps pe ps pe ps pe so2 ps pe ps pe ps pe ps pe pd ps pe2 so nl9 mn4 mc2 pd lm5 so2 nl3
    lm lo po so2 cn lo86 cn2 mn2 sk2 lm2 lo pd lo90 po lm3 lo cn5 lo43 cn lo94 cn so2 no4 so10
    lo32 so38 cn9 so lo16 so31 cn no10 so30 no8 so no15 so32 no10 so39 no15 so320 lo6592 so64
    lo21013 lm lo1143 cn3 so55 cn9 lo40 lm6 po2 lo268 lm po3 lo16 nd10 lo2 cn20 lu ll lu ll lu
    ll lu ll lu ll lu ll lu ll lu ll lu ll lu ll lu ll lu ll lu ll lu ll lu ll lu ll lu ll lu ll
    lu ll lu ll lu ll lu ll lu ll lo mn me3 po mn10 po lm lu ll lu ll lu ll lu ll lu ll lu ll lu
    ll lu ll lu ll lu ll lu ll lu ll lu ll lu ll lm2 mn2 lo70 nl10 mn2 po6 cn8 sk23 lm9 sk2 lu
    ll lu ll lu ll lu ll lu ll lu ll lu ll3 lu ll lu ll lu ll lu ll lu ll lu ll lu ll lu ll lu
    ll lu ll lu ll lu ll lu ll lu ll lu ll lu ll lu ll lu ll lu ll lu ll lu ll lu ll lu ll lu ll
    lu ll lu ll lu ll lu ll lu ll lu ll lu ll lm ll8 lu ll lu ll lu2 ll lu ll lu ll lu ll lu ll
    lm sk2 lu ll lu ll lo lu ll lu ll3 lu ll lu ll lu ll lu ll lu ll lu ll lu ll lu ll lu ll lu
    ll lu5 ll lu5 ll lu ll lu ll lu ll lu ll lu ll lu ll lu ll lu4 ll lu ll lu2 ll cn2 lu ll cn
    ll cn ll lu ll lu ll lu ll lu cn21 lm3 lu ll lo lm2 ll lo7 mn lo3 mn lo4 mn lo23 mc2 mn2 mc
    so4 mn cn3 no6 so2 sc so cn6 lo52 po4 cn8 mc2 lo50 mc16 mn2 cn8 po2 nd10 cn6 mn18 lo6 po3 lo
    po lo2 mn nd10 lo28 mn8 po2 lo23 mn11 mc2 cn11 po lo29 cn3 mn3 mc lo47 mn mc2 mn4 mc2 mn2
    mc3 po13 cn lm nd10 cn4 po2 lo5 mn lm lo9 nd10 lo5 cn lo41 mn6 mc2 mn2 mc2 mn2 cn9 lo3 mn
    lo8 mn mc cn2 nd10 cn2 po4 lo16 lm lo6 so3 lo mc mn mc lo50 mn lo mn3 lo2 mn2 lo5 mn2 lo mn
    lo cn24 lo2 lm po2 lo11 mc mn2 mc2 po2 lo lm2 mc mn cn10 lo6 cn2 lo6 cn2 lo6 cn9 lo7 cn lo7
    cn ll43 sk lm4 ll9 lm sk2 cn4 ll80 lo35 mc2 mn mc2 mn mc2 po mc mn cn2 nd10 cn6 lo11172 cn12
    lo23 cn4 lo49 cn4 cs2048 co6400 lo366 cn2 lo106 cn38 ll7 cn12 ll5 cn5 lo mn lo10 sm lo13 cn
    lo5 cn lo cn lo2 cn lo2 cn lo108 sk17 cn16 lo363 pe ps so16 lo64 cn2 lo54 cn7 so cn32 lo12
    sc so3 mn16 po7 ps pe po cn6 mn16 po pd2 pc2 ps pe ps pe ps pe ps pe ps pe ps pe ps pe ps pe
    po2 ps pe po4 pc3 po3 cn po4 pd ps pe ps pe ps pe po3 sm pd sm3 cn po sc po2 cn4 lo5 cn
    lo135 cn2 cf cn po3 sc po3 ps pe po sm po pd po2 nd10 po2 sm3 po2 lu26 ps po pe sk pc sk
    ll26 ps sm pe sm ps pe po ps pe po2 lo10 lm lo45 lm2 lo31 cn3 lo6 cn2 lo6 cn2 lo6 cn2 lo3
    cn3 sc2 sm sk so sc2 cn so sm4 so2 cn10 cf3 so2 cn2 lo12 cn lo26 cn lo19 cn lo2 cn lo15 cn2
    lo14 cn34 lo123 cn5 po3 cn4 no45 cn3 so9 nl53 no4 so17 no2 so3 cn so13 cn3 so cn47 so45 mn
    cn130 lo29 cn3 lo49 cn15 mn no27 cn4 lo32 no4 cn9 lo20 nl lo8 nl cn5 lo38 mn5 cn5 lo30 cn po
    lo36 cn4 lo8 po nl5 cn42 lu40 ll40 lo78 cn2 nd10 cn6 lu36 cn4 ll36 cn4 lo40 cn8 lo52 cn11 po
    lu11 cn lu15 cn lu7 cn lu2 cn ll11 cn ll15 cn ll7 cn ll2 cn3 lo52 cn12 lo311 cn9 lo22 cn10
    lo8 cn24 lm6 cn lm42 cn lm9 cn69 lo6 cn2 lo cn lo44 cn lo2 cn3 lo cn2 lo23 cn po no8 lo23
    so2 no7 lo31 cn8 no9 cn48 lo19 cn lo2 cn5 no5 lo22 no6 cn3 po lo26 cn5 po cn64 lo56 cn4 no2
    lo2 no16 cn2 no46 lo mn3 cn mn2 cn5 mn4 lo4 cn lo3 cn lo29 cn2 mn3 cn4 mn no9 cn7 po9 cn7
    lo29 no2 po lo29 no3 cn32 lo8 so lo28 mn2 cn4 no5 po7 cn9 lo54 cn3 po7 lo22 cn2 no8 lo19 cn5
    no8 lo18 cn7 po4 cn12 no7 cn80 lo73 cn55 lu51 cn13 ll51 cn7 no6 lo36 mn4 cn8 nd10 cn6 nd10
    lo4 lm lo lu22 cn3 mn5 pd lm ll22 cn8 sm2 cn208 no31 cn lo42 cn mn2 pd cn2 lo2 cn16 lo3 cn55
    mn4 lo29 no10 lo cn8 lo22 mn11 no4 po5 cn22 lo18 mn4 po4 cn38 lo21 no7 cn20 lo23 cn9 mc mn
    mc lo53 mn15 po7 cn4 no20 nd10 mn lo2 mn2 lo cn9 mn3 mc lo45 mc3 mn4 mc2 mn2 po2 cf po4 mn
    cn10 cf cn2 lo25 cn7 nd10 cn6 mn3 lo36 mn5 mc mn8 cn nd10 po4 lo mc2 lo cn8 lo35 mn po2 lo
    cn9 mn2 mc lo48 mc3 mn9 mc2 lo4 po4 mn4 po mc mn nd10 lo po lo po3 cn no20 cn11 lo18 cn lo25
    mc3 mn3 mc2 mn mc mn2 po6 mn lo2 mn cn62 lo7 cn lo cn lo4 cn lo15 cn lo10 po cn6 lo47 mn mc3
    mn8 cn5 nd10 cn6 mn2 mc2 cn lo8 cn2 lo2 cn2 lo22 cn lo7 cn lo2 cn lo5 cn mn2 lo mc2 mn mc4
    cn2 mc2 cn2 mc3 cn2 lo cn6 mc cn5 lo5 mc2 cn2 mn7 cn3 mn5 cn11 lo10 cn lo cn2 lo cn lo38 cn
    lo mc3 mn6 cn mc cn2 mc cn mc4 cn mc2 mn mc mn lo mn lo po2 cn po2 cn8 mn2 cn29 lo53 mc3 mn8
    mc2 mn3 mc mn lo4 po5 nd10 po2 cn po mn lo3 cn30 lo48 mc3 mn6 mc mn mc4 mn2 mc mn2 lo2 po lo
    cn8 nd10 cn166 lo47 mc3 mn4 cn2 mc4 mn2 mc mn2 po23 lo4 mn2 cn34 lo48 mc3 mn8 mc2 mn mc mn2
    po3 lo cn11 nd10 cn6 po13 cn19 lo43 mn mc mn mc2 mn6 mc mn lo po cn6 nd10 cn6 nd20 cn28 lo27
    cn2 mn mc mn mc2 mn4 mc mn5 cn4 nd10 no2 po3 so lo7 cn185 lo44 mc3 mn9 mc mn2 po cn100 lu32
    ll32 nd10 no9 cn12 lo8 cn2 lo cn2 lo8 cn lo2 cn lo24 mc6 cn mc2 cn2 mn2 mc mn lo mc lo mc mn
    po3 cn9 nd10 cn70 lo8 cn2 lo39 mc3 mn4 cn2 mn2 mc4 mn lo po lo mc cn27 lo mn10 lo40 mn6 mc
    lo mn4 po8 mn cn8 lo mn6 mc2 mn3 lo46 mn13 mc mn2 po3 lo po5 cn13 lo73 cn7 po10 cn182 lo33
    po cn14 nd10 cn6 lo9 cn lo37 mc mn7 cn mn6 mc mn lo po5 cn10 nd10 no19 cn3 po2 lo30 cn2 mn22
    cn mc mn7 mc mn2 mc mn2 cn73 lo7 cn lo2 cn lo38 mn6 cn3 mn cn mn2 cn mn7 lo mn cn8 nd10 cn6
    lo6 cn lo2 cn lo32 mc5 cn mn2 cn mc2 mn mc mn lo cn7 nd10 cn310 lo19 mn2 mc2 po2 cn7 mn2 lo
    mc lo13 cn lo34 mc2 mn5 cn3 mc2 mn mc mn po13 nd10 mn cn85 lo cn15 no21 so8 sc4 so17 cn13 po
    lo922 cn102 nl111 cn po5 cn11 lo196 cn2636 lo97 po2 cn13 lo1072 cf16 mn lo6 mn15 cn10 lo3995
    cn5 lo583 cn6841 lo30 mn12 mc3 mn3 nd10 cn1734 lo569 cn7 lo31 cn nd10 cn4 po2 lo79 cn nd10
    cn6 lo30 cn2 mn5 po cn10 lo48 mn7 po5 so4 lm4 po so cn10 nd10 cn no7 cn lo21 cn5 lo19 cn432
    lm3 lo40 lm2 po3 nd10 cn198 lu32 ll32 no23 po4 cn101 lo75 cn4 mn lo mc55 cn7 mn4 lm13 cn64
    lm2 po lm mn cn11 mc2 cn14 lo6136 cn8 lo1238 cn41 lo10 cn8935 lm4 cn lm7 cn lm2 cn lo291
    cn15 lo cn29 lo3 cn2 lo cn14 lo4 cn8 lo396 cn2308 lo107 cn5 lo13 cn3 lo9 cn7 lo10 cn2 so mn2
    po cf4 cn3932 so240 nd10 cn6 so436 cn76 mn46 cn2 mn23 cn9 so116 cn60 so246 cn10 so39 cn2
    so60 mc2 mn3 so3 mc6 cf8 mn8 so2 mn7 so30 mn4 so61 cn21 so66 mn3 so cn122 no20 cn12 no20
    cn12 so87 cn9 no25 cn135 lu26 ll26 lu26 ll7 cn ll18 lu26 ll26 lu cn lu2 cn2 lu cn2 lu2 cn2
    lu4 cn lu8 ll4 cn ll cn ll7 cn ll11 lu26 ll26 lu2 cn lu4 cn2 lu8 cn lu7 cn ll26 lu2 cn lu4
    cn lu5 cn lu cn3 lu7 cn ll26 lu26 ll26 lu26 ll26 lu26 ll26 lu26 ll26 lu26 ll26 lu26 ll28 cn2
    lu25 sm ll25 sm ll6 lu25 sm ll25 sm ll6 lu25 sm ll25 sm ll6 lu25 sm ll25 sm ll6 lu25 sm ll25
    sm ll6 lu ll cn2 nd50 so512 mn55 so4 mn50 so8 mn so14 mn so2 po5 cn15 mn5 cn mn15 cn1104
    ll10 lo ll20 cn6 ll6 cn213 mn7 cn mn17 cn2 mn7 cn mn2 cn mn5 cn5 lm62 cn33 mn cn112 lo45 cn3
    mn7 lm7 cn2 nd10 cn4 lo so cn320 lo30 mn cn17 lo44 mn4 nd10 cn5 sc cn464 lo27 lm mn4 nd10
    cn214 lo30 mn2 lo nd10 cn4 po cn480 lo7 cn lo4 cn lo2 cn lo15 cn lo197 cn2 no9 mn7 cn41 lu34
    ll34 mn7 lm cn4 nd10 cn4 po2 cn785 no59 so no3 sc no4 cn76 no45 so no15 cn194 lo4 cn lo27 cn
    lo2 cn lo cn2 lo cn lo10 cn lo4 cn lo cn lo cn6 lo cn4 lo cn lo cn lo cn lo3 cn lo2 cn lo
    cn2 lo cn lo cn lo cn lo cn lo cn lo2 cn lo cn2 lo4 cn lo7 cn lo4 cn lo4 cn lo cn lo10 cn
    lo17 cn5 lo3 cn lo5 cn lo17 cn52 sm2 cn270 so44 cn4 so100 cn12 so15 cn2 so15 cn so15 cn so37
    cn10 no13 so161 cn56 so29 cn13 so44 cn4 so9 cn7 so2 cn14 so6 cn154 so251 sk5 so728 cn4 so17
    cn3 so13 cn3 so119 cn4 so95 cn6 so12 cn4 so cn15 so12 cn4 so56 cn8 so10 cn6 so40 cn8 so30
    cn2 so12 cn4 so2 cn62 so340 cn12 so14 cn2 so13 cn3 so10 cn5 so56 cn7 so15 cn2 so11 cn6 so9
    cn7 so147 cn so92 nd10 cn1030 lo42720 cn32 lo4154 cn6 lo222 cn2 lo5762 cn14 lo7473 cn15
    lo622 cn2466 lo542 cn1506 lo4939 cn5 lo4192 cn711761 cf cn30 cf96 cn128 mn240 cn65040
    co65534 cn2 co65534 cn2"

/-- The unions of categories that have names, with their members. -/
def categoryUnions : List (List String × List String) :=
  [(["l", "letter"], ["lu", "ll", "lt", "lm", "lo"]), (["lc", "casedletter"], ["lu", "ll", "lt"]),
   (["m", "mark", "combiningmark"], ["mn", "mc", "me"]), (["n", "number"], ["nd", "nl", "no"]),
   (["p", "punct", "punctuation"], ["pc", "pd", "ps", "pe", "pi", "pf", "po"]),
   (["s", "symbol"], ["sm", "sc", "sk", "so"]), (["z", "separator"], ["zs", "zl", "zp"]),
   (["c", "other"], ["cc", "cf", "co", "cn"])]

end HeaderBindings.Pattern.Property
