import AuditRelay.Text.MarkClass

/-!
# Composition

A letter with marks can be written in several ways: as one character, or as a letter and marks in an
order that does not show. The composed form has as few characters as possible, and its marks are in
the order of their classes. It is the normalization form C of Unicode for texts in which characters
that are only there for compatibility have been folded before.
-/

namespace AuditRelay.Text.Composition

/-! ## Pairs -/

/-- The characters that two characters compose: the second one, and then every first one in front of
what the two compose. -/
def table : List (Nat × String) := [
  (0x300, "AÀEÈIÌNǸOÒUÙWẀYỲaàeèiìnǹoòuùwẁyỳ¨῭ÂẦÊỀÔỒÜǛâầêềôồüǜĂẰăằĒḔēḕŌṐōṑƠỜơờƯỪưừΑᾺΕῈΗῊΙῚ"),
  (0x300, "ΟῸΥῪΩῺαὰεὲηὴιὶοὸυὺωὼϊῒϋῢЕЀИЍеѐиѝἀἂἁἃἈἊἉἋἐἒἑἓἘἚἙἛἠἢἡἣἨἪἩἫἰἲἱἳἸἺἹἻὀὂὁὃὈὊὉὋὐὒὑὓὙὛ"),
  (0x300, "ὠὢὡὣὨὪὩὫ᾿῍῾῝"),
  (0x301, "AÁCĆEÉGǴIÍKḰLĹMḾNŃOÓPṔRŔSŚUÚWẂYÝZŹaácćeégǵiíkḱlĺmḿnńoópṕrŕsśuúwẃyýzź¨΅ÂẤÅǺÆǼÇḈ"),
  (0x301, "ÊẾÏḮÔỐÕṌØǾÜǗâấåǻæǽçḉêếïḯôốõṍøǿüǘĂẮăắĒḖēḗŌṒōṓŨṸũṹƠỚơớƯỨưứΑΆΕΈΗΉΙΊΟΌΥΎΩΏαάεέηήιί"),
  (0x301, "οόυύωώϊΐϋΰϒϓГЃКЌгѓкќἀἄἁἅἈἌἉἍἐἔἑἕἘἜἙἝἠἤἡἥἨἬἩἭἰἴἱἵἸἼἹἽὀὄὁὅὈὌὉὍὐὔὑὕὙὝὠὤὡὥὨὬὩὭ᾿῎῾῞"),
  (0x302, "AÂCĈEÊGĜHĤIÎJĴOÔSŜUÛWŴYŶZẐaâcĉeêgĝhĥiîjĵoôsŝuûwŵyŷzẑẠẬạậẸỆẹệỌỘọộ"),
  (0x303, "AÃEẼIĨNÑOÕUŨVṼYỸaãeẽiĩnñoõuũvṽyỹÂẪÊỄÔỖâẫêễôỗĂẴăẵƠỠơỡƯỮưữ"),
  (0x304, "AĀEĒGḠIĪOŌUŪYȲaāeēgḡiīoōuūyȳÄǞÆǢÕȬÖȪÜǕäǟæǣõȭöȫüǖǪǬǫǭȦǠȧǡȮȰȯȱΑᾹΙῙΥῩαᾱιῑυῡИӢУӮиӣ"),
  (0x304, "уӯḶḸḷḹṚṜṛṝ"),
  (0x306, "AĂEĔGĞIĬOŎUŬaăeĕgğiĭoŏuŭȨḜȩḝΑᾸΙῘΥῨαᾰιῐυῠАӐЕӖЖӁИЙУЎаӑеӗжӂийуўẠẶạặ"),
  (0x307, "AȦBḂCĊDḊEĖFḞGĠHḢIİMṀNṄOȮPṖRṘSṠTṪWẆXẊYẎZŻaȧbḃcċdḋeėfḟgġhḣmṁnṅoȯpṗrṙsṡtṫwẇxẋyẏzż"),
  (0x307, "ŚṤśṥŠṦšṧſẛṢṨṣṩ𐗒𐗉𐗚𐗤"),
  (0x308, "AÄEËHḦIÏOÖUÜWẄXẌYŸaäeëhḧiïoötẗuüwẅxẍyÿÕṎõṏŪṺūṻΙΪΥΫιϊυϋϒϔІЇАӒЕЁЖӜЗӞИӤОӦУӰЧӴЫӸЭӬ"),
  (0x308, "аӓеёжӝзӟиӥоӧуӱчӵыӹэӭіїӘӚәӛӨӪөӫ"),
  (0x309, "AẢEẺIỈOỎUỦYỶaảeẻiỉoỏuủyỷÂẨÊỂÔỔâẩêểôổĂẲăẳƠỞơởƯỬưử"), (0x30a, "AÅUŮaåuůwẘyẙ"),
  (0x30b, "OŐUŰoőuűУӲуӳ"),
  (0x30c, "AǍCČDĎEĚGǦHȞIǏKǨLĽNŇOǑRŘSŠTŤUǓZŽaǎcčdďeěgǧhȟiǐjǰkǩlľnňoǒrřsštťuǔzžÜǙüǚƷǮʒǯ"),
  (0x30f, "AȀEȄIȈOȌRȐUȔaȁeȅiȉoȍrȑuȕѴѶѵѷ"), (0x311, "AȂEȆIȊOȎRȒUȖaȃeȇiȋoȏrȓuȗ"),
  (0x313, "ΑἈΕἘΗἨΙἸΟὈΩὨαἀεἐηἠιἰοὀρῤυὐωὠ"), (0x314, "ΑἉΕἙΗἩΙἹΟὉΡῬΥὙΩὩαἁεἑηἡιἱοὁρῥυὑωὡ"),
  (0x31b, "OƠUƯoơuư"),
  (0x323, "AẠBḄDḌEẸHḤIỊKḲLḶMṂNṆOỌRṚSṢTṬUỤVṾWẈYỴZẒaạbḅdḍeẹhḥiịkḳlḷmṃnṇoọrṛsṣtṭuụvṿwẉyỵzẓƠỢ"),
  (0x323, "ơợƯỰưự"), (0x324, "UṲuṳ"), (0x325, "AḀaḁ"), (0x326, "SȘTȚsștț"),
  (0x327, "CÇDḐEȨGĢHḨKĶLĻNŅRŖSŞTŢcçdḑeȩgģhḩkķlļnņrŗsştţ"), (0x328, "AĄEĘIĮOǪUŲaąeęiįoǫuų"),
  (0x32d, "DḒEḘLḼNṊTṰUṶdḓeḙlḽnṋtṱuṷ"), (0x32e, "HḪhḫ"), (0x330, "EḚIḬUṴeḛiḭuṵ"),
  (0x331, "BḆDḎKḴLḺNṈRṞTṮZẔbḇdḏhẖkḵlḻnṉrṟtṯzẕ"),
  (0x338, "<≮=≠>≯←↚→↛↔↮⇐⇍⇒⇏⇔⇎∃∄∈∉∋∌∣∤∥∦∼≁≃≄≅≇≈≉≍≭≡≢≤≰≥≱≲≴≳≵≶≸≷≹≺⊀≻⊁≼⋠≽⋡⊂⊄⊃⊅⊆⊈⊇⊉⊑⋢⊒⋣⊢⊬⊨⊭⊩⊮"),
  (0x338, "⊫⊯⊲⋪⊳⋫⊴⋬⊵⋭"), (0x342, "¨῁αᾶηῆιῖυῦωῶϊῗϋῧἀἆἁἇἈἎἉἏἠἦἡἧἨἮἩἯἰἶἱἷἸἾἹἿὐὖὑὗὙὟὠὦὡὧὨὮὩὯ᾿῏῾῟"),
  (0x345, "ΑᾼΗῌΩῼάᾴήῄαᾳηῃωῳώῴἀᾀἁᾁἂᾂἃᾃἄᾄἅᾅἆᾆἇᾇἈᾈἉᾉἊᾊἋᾋἌᾌἍᾍἎᾎἏᾏἠᾐἡᾑἢᾒἣᾓἤᾔἥᾕἦᾖἧᾗἨᾘἩᾙἪᾚἫᾛἬᾜἭᾝ"),
  (0x345, "ἮᾞἯᾟὠᾠὡᾡὢᾢὣᾣὤᾤὥᾥὦᾦὧᾧὨᾨὩᾩὪᾪὫᾫὬᾬὭᾭὮᾮὯᾯὰᾲὴῂὼῲᾶᾷῆῇῶῷ"), (0x653, "اآ"),
  (0x654, "اأوؤيئہۂےۓەۀ"), (0x655, "اإ"), (0x93c, "नऩरऱळऴ"), (0x9be, "েো"), (0x9d7, "েৌ"),
  (0xb3e, "େୋ"), (0xb56, "େୈ"), (0xb57, "େୌ"), (0xbbe, "ெொேோ"), (0xbd7, "ஒஔெௌ"), (0xc56, "ెై"),
  (0xcc2, "ೆೊ"), (0xcd5, "ಿೀೆೇೊೋ"), (0xcd6, "ೆೈ"), (0xd3e, "െൊേോ"), (0xd57, "െൌ"),
  (0xdca, "ෙේොෝ"), (0xdcf, "ෙො"), (0xddf, "ෙෞ"), (0x102e, "ဥဦ"),
  (0x1b35, "ᬅᬆᬇᬈᬉᬊᬋᬌᬍᬎᬑᬒᬺᬻᬼᬽᬾᭀᬿᭁᭂᭃ"),
  (0x3099, "うゔかがきぎくぐけげこごさざしじすずせぜそぞただちぢつづてでとどはばひびふぶ"),
  (0x3099, "へべほぼゝゞウヴカガキギクグケゲコゴサザシジスズセゼソゾタダチヂツヅテデトド"),
  (0x3099, "ハバヒビフブヘベホボワヷヰヸヱヹヲヺヽヾ"),
  (0x309a, "はぱひぴふぷへぺほぽハパヒピフプヘペホポ"), (0x110ba, "𑂙𑂚𑂛𑂜𑂥𑂫"), (0x11127, "𑄱𑄮𑄲𑄯"),
  (0x1133e, "𑍇𑍋"), (0x11357, "𑍇𑍌"), (0x113b8, "𑏅𑎸"), (0x113bb, "𑎄𑎅"), (0x113c2, "𑎋𑎎𑏅𑏂"),
  (0x113c9, "𑎂𑎃𑎐𑎑𑏅𑏉"), (0x114b0, "𑒹𑒼"), (0x114ba, "𑒹𑒻"), (0x114bd, "𑒹𑒾"), (0x115af, "𑖸𑖺𑖹𑖻"),
  (0x11930, "𑤵𑤸"), (0x1611e, "𖄡𖄞"), (0x1611f, "𖄦𖄡𖄦𖄢𖄧𖄩𖄤"), (0x16120, "𖄨𖄡𖄨"),
  (0x16129, "𖄡𖄩"), (0x16d67, "𖵣𖵪𖵨𖵩𖵪")]

/-- Takes the characters of a list in twos. -/
def inTwos : List Char → List (Char × Char)
  | a :: b :: cs => (a, b) :: inTwos cs
  | _ => []

/-- The first character, the second one, and what they compose. -/
def pairs : List (Char × Char × Char) :=
  table.flatMap fun (second, text) =>
    (inTwos text.toList).map fun (first, whole) => (first, Char.ofNat second, whole)

/-! ## Syllables

The syllables of Korean are composed by counting: 21 vowels and 27 final consonants follow each of
19 initial consonants.
-/

/-- The first syllable. -/
def firstSyllable : Nat := 0xac00

/-- The number of syllables. -/
def syllables : Nat := 19 * 21 * 28

/-- The two characters that compose a syllable. -/
def splitSyllable? (c : Char) : Option (Char × Char) :=
  let n := c.toNat - firstSyllable
  if c.toNat < firstSyllable || syllables ≤ n then none
  else if n % 28 = 0 then
    some (Char.ofNat (0x1100 + n / 588), Char.ofNat (0x1161 + n % 588 / 28))
  else some (Char.ofNat (c.toNat - n % 28), Char.ofNat (0x11a7 + n % 28))

/-- The syllable that two characters compose. -/
def joinSyllable? (a b : Char) : Option Char :=
  let initial := a.toNat - 0x1100
  let vowel := b.toNat - 0x1161
  let syllable := a.toNat - firstSyllable
  let final := b.toNat - 0x11a7
  if 0x1100 ≤ a.toNat && initial < 19 && 0x1161 ≤ b.toNat && vowel < 21 then
    some (Char.ofNat (firstSyllable + (initial * 21 + vowel) * 28))
  else if firstSyllable ≤ a.toNat && syllable < syllables && syllable % 28 == 0
      && 0x11a7 < b.toNat && final < 28 then
    some (Char.ofNat (a.toNat + final))
  else none

/-! ## Decomposing and composing -/

/-- The two characters that compose a character. -/
def split? (c : Char) : Option (Char × Char) :=
  match splitSyllable? c with
  | some pair => some pair
  | none => (pairs.find? (·.2.2 == c)).map fun (a, b, _) => (a, b)

/-- The character that two characters compose. -/
def join? (a b : Char) : Option Char :=
  match joinSyllable? a b with
  | some c => some c
  | none => (pairs.find? fun (x, y, _) => x == a && y == b).map (·.2.2)

/-- The characters that compose a character, in so many steps at most. -/
def unfold : (steps : Nat) → Char → List Char
  | 0, c => [c]
  | n + 1, c =>
    match split? c with
    | some (a, b) => unfold n a ++ [b]
    | none => [c]

/-- The characters that compose a character; no character takes more than four steps. -/
def decompose (c : Char) : List Char :=
  if c.toNat < 0xc0 then [c] else unfold 4 c

/-- Puts a mark in front of others, but behind marks of lower classes. -/
def insertMark (c : Char) : List Char → List Char
  | [] => [c]
  | d :: ds =>
    if MarkClass.ofChar d ≠ 0 && MarkClass.ofChar d < MarkClass.ofChar c then d :: insertMark c ds
    else c :: d :: ds

/-- Puts marks in order. -/
def sortMarks (cs : List Char) : List Char :=
  cs.foldr insertMark []

/-- Composes a letter with what follows. `kept` are the marks that could not be composed with it,
the last one first, and `last` is the class of the last one. -/
def composeFrom (letter : Char) : (kept : List Char) → (last : Nat) → List Char → List Char
  | kept, _, [] => letter :: kept.reverse
  | kept, last, c :: cs =>
    let place := MarkClass.ofChar c
    let isBlocked := !kept.isEmpty && place ≤ last
    match if isBlocked then none else join? letter c with
    | some whole => composeFrom whole kept last cs
    | none =>
      if place = 0 then letter :: kept.reverse ++ composeFrom c [] 0 cs
      else composeFrom letter (c :: kept) place cs

/-- Composes every letter with its marks. -/
def compose : List Char → List Char
  | [] => []
  | c :: cs => if MarkClass.ofChar c = 0 then composeFrom c [] 0 cs else c :: compose cs

/-- The composed form of a text. -/
def normalize (cs : List Char) : List Char :=
  if cs.all (·.toNat < 0x300) then cs else compose (sortMarks (cs.flatMap decompose))

end AuditRelay.Text.Composition
