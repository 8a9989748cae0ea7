import CommandLine.Text.CodeTable

/-!
# Classes of characters

Which characters are decimal digits, which stand in bare words, and which a quoted text shows as they
are.  In ASCII each class is a few runs; above it the tables decide.

Every decimal digit of the character set stands in a run of ten, from zero to nine; its table lists
the zeros.  A bare word starts with a letter-like character and goes on with letters, digits and
marks.  Controls, format characters, separators, private and unassigned code points are not
printable: inside quotes they are written as escapes.
-/

namespace CommandLine.Text

/-! ## decimal digits -/

/-- the digit zero of each script above ASCII -/
def zeroDigits : List Nat := (rangeTable
  [ "660 6f0 7c0 966 9e6 a66 ae6 b66 be6 c66 ce6 d66 de6 e50 ed0 f20 1040 1090 17e0 1810"
  , "1946 19d0 1a80 1a90 1b50 1bb0 1c40 1c50 a620 a8d0 a900 a9d0 a9f0 aa50 abf0 ff10 104a0"
  , "10d30 11066 110f0 11136 111d0 112f0 11450 114d0 11650 116c0 11730 118e0 11950 11c50"
  , "11d50 11da0 16a60 16ac0 16b50 1d7ce 1d7d8 1d7e2 1d7ec 1d7f6 1e140 1e2f0 1e950"
  , "1fbf0" ]).map (·.lo)

def digitValue? (c : Char) : Option Nat :=
  if c.toNat < 0x80 then
    if c.isDigit then some (c.toNat - '0'.toNat) else none
  else (zeroDigits.find? fun z => z ≤ c.toNat && c.toNat ≤ z + 9).map (c.toNat - ·)

/-! ## characters of words -/

def wordStartRanges : List CodeRange := gapTable
  [ "GoakaeafwbBebRpeloehabaEzebbdcbagabcbabtbDebFiiGjbBlcagBoCtBaedBtBqBjbbDubapbhbkccaqabBdBdDk"
  , "layBgjbeafveajadaxyhkfxbfrBpCgCbdasahjppehcbcvbgbadddaqanbbcobkaifebcvbgbbbbbbBfdbatcqibcbvb"
  , "gbbbedasapbxalhcbcvbgbbbedaBebbcparabfdcbddbbabbdbdcdlwaCahbcbwbpdaBaccacbBeaehbcbwbjbedaBfb"
  , "bbpbribcbBocaqafcicyffrdxbibacgCgBvbangCgbbabebxbabjbakacebavdBgaClhbBjBbeElBquaqfeddadbhcem"
  , "marBlbafacBqbMubdcgbabdcBobdcBgbdcgbabdcobCebdcCoBlpqDhcfdXvcqbzfCwdkhrnsorombcpBzBjaeaCpDkh"
  , "BobafCrkBeBxBdcelBrezCcwjCaDeaDpBurhCcBdnbkBrBaBjBpckBjcihBqccBpdbfbbdafHjCmKrcfcBlcfchbabab"
  , "abBecCabgbadcbgddcfemfcbgEmanaqmDxaeacjbacfgabababpcdfeearBoDZbIugddbmBlbafacCdhaqwjgbgbgbgb"
  , "gbgbgbgVecziheceeDhgcbDlbdfBqbDprBfBwpTsJTnCmBGUeCpBtcKidpkbuBuqBecDbBnicDycClfbbabeypbcbdbw"
  , "BdBzoBxCkfdabblBbkwzBchBuBcaqebjkebBoxcbhuwdadBxbadbcecabaycckhcmfcfcfjgbgbBqbngEkBdQNrmweBw"
  , "MNcObcEbBmgmefabjbmbebabbbbbEdBhFigIjsClcCbBojEpabadababababEvBkzgzlCdcBedfcfcfccBjlbzbsbbbo"
  , "cnBiEsCrCaKhBcdBwBvBfnBdfBlkBdcBjehbeBqGbsBjeBjeBniBzmkbobgbbbkbobgbbCpLyjvkhyfbBpbiCrfcabBr"
  , "bbdacwkwjBeCnsbbkvkzCsCdgbCmapdbcbBcBqBcdBcBjhbBbBbCbkvksnrEgCuCdBynBynBjNkBpgbDaBckaivBqrBu"
  , "uBbwmCaCfbcanBsBgyBaBjBdacaiBidamBvodvabaBjrbyDggbabdbobjhBuBmhcbcvbgbbbedasameGcCasducBeBvu"
  , "bbaHcBuBpdBkBvuaChBqnaCtBaBlgHdBrEmClBfhcachbbbxpabaDqhcBmqabaBcakBnhavalBttasCuKdibBkraBxBd"
  , "EigbbbBlvazfbbbBfoaMpsHhaDbBJlDyEgrHnDXkDspBPeFZtWkMUbVwhBerDarBdsBvqdBfufsBAmClEyCwfaComCmb"
  , "baBcJBziBVpBqiNFrdbgbbbLeBtcrdiPfDKuEcfmdihjIWkDgbCsbbcacbcdblbabgbCmbdchbgbBbbdbebadgbNbcyb"
  , "ybBebybBebybBebybBebybhCSyBeSnBskgqaMjBdsBrBWugbdbbbobHoChCphaBUidbBabbbacabjbdbabagaeababab"
  , "cbbbacabababababbbacdbgbdbdbabjbqfcbebqGOaCLFbBgGDshIncINpoLBkEPjUvCFyHHy" ]

def wordPartRanges : List CodeRange := gapTable
  [ "GoakabacafwbBebRpeloehabarEmbbdcbagebabtbDebFibecGjbBlcagBoiBsbabbbbbaiBaedBdkfCveDxbhcjbsca"
  , "qCgcDwoCbeacacBtsBbekfxbfjCvbEycjbsbhcbcvbgbaddcicbcdiaebbeclkabaccbfebcvbgbbbbbbcabeebccdah"
  , "dbahplcbibcbvbgbbbecjbcbccapdcjjgbcbhcbcvbgbbbecicbcchcebbecjbaqbbfdcbddbbabbdbdcdleedcbdcag"
  , "aojqmbcbwbpcibcbdhbbccacdcjqdbhbcbwbjbecibcbdhbgbbdcjbbnmbcbBybcbefdhecjkfbcbrdxbibacgdaefba"
  , "bhgjcbnCffobjBnbbabebxbabwcebabfcjcdBgaxbgjlababaejbBjetbrbBjjaCfCvgCzcBlbafacBqbMubdcgbabdc"
  , "BobdcBgbdcgbabdcobCebdcCoccjiopqDhcfdXvcqbzfCwdkhvjvltmmbcbbmDfdaebcjBhcbkgDkhBqfCrkBeblelkB"
  , "ncelBrezgkBlBbeCkbBcckgjnainbpBxCydjrimElmCdijdBwcihBqccqcbBmfUncfcBlcfchbabababBecCabgbadcb"
  , "gddcfemfcbgCobtaBcanaqmBzmeadlraeacjbacfgabababpcdfeearBoDZbIugimBlbafacCdhapxjgbgbgbgbgbgbg"
  , "bgbBfTxczobeceeDhcbccbDlbdfBqbDprBfBwpTsJTnCmBGUeCpBtcKidBbuBvejbEkBlicDycClfbbabeyCbeatBzmC"
  , "rkjgxdabBwcBjmBcdCmokgBebCcjncjgwdCuyccpcekfcfcfjgbgbBqbngEsbbcjgQNrmweBwMNcObcEbBmgmeflbmbe"
  , "babbbbbEdBhFigIjsClcCbBojgpqpdbycBhabadababababEvtjhzeabzlDkdfcfcfccBjlbzbsbbbocnBiEsCrCaFga"
  , "FaBcdBwpaBfBfnBdfBqfBdcBjehbeBqGbcjgBjeBjeBniBzmkbobgbbbkbobgbbCpLyjvkhyfbBpbiCrfcabBrbbdacw"
  , "kwjBeCnsbbkvkzCsCdgbCmdbbfhbcbBccceaBgBcdBcBjhbBdzCbkvksnrEgCuCdBynBynBnijMoBpbbdbDaBckaiBgB"
  , "fvBquBbwjCsBfpjChhanyhjgCabjediBjcajCqedbmbaBjrbBkgaCngbabdbobjhCgfjgdbhcbcvbgbbbebjcbcccaga"
  , "fgcgdeFjCwfjedBeCrbaijGkCbcixfBiCmdaljBmCehjCcBacoejggHdCgDxCvvhcachbbbBdbbcimjCshcBtchbbBbC"
  , "kiaiCvdasCuKdibBsbipjyBdcvbnCvgbbbBrdabbbiijgfbbbBkbbbfhjLywHdaDbBJlDyEgrHnDXkDspBPeFZtWkMUb"
  , "VwhBebjgDabjgBdcelCcjdmjjufsBAmClEyCweCehqCmbbblboJBziBVpBqiNFrdbgbbbLeBtcrdiPfDKuEcfmdihjdb"
  , "GYzBtcwUwedfihcgBedFscRbDgbCsbbcacbcdblbabgbCmbdchbgbBbbdbebadgbNbcybybBebybBebybBebybBebybh"
  , "cBxTsCceBxiaoaweboBQmBeIrgbqcgbbbeIfBsdncjeaMjBerCfBWggbdbbbobHolgBpCxejBTudbBabbbacabjbdbab"
  , "agaeabababcbbbacabababababbbacdbgbdbdbabjbqfcbebqFAajBNqCLFbBgGDshIncINpoLBkEPjUvCFyHHyBOTMr"
  , "Jf" ]

def isWordStart (c : Char) : Bool :=
  if c.toNat < 0x80 then c.isAlpha || c = '_' else wordStartRanges.any (·.has c.toNat)

def isWordPart (c : Char) : Bool :=
  if c.toNat < 0x80 then c.isAlphanum || c = '_' else wordPartRanges.any (·.has c.toNat)

def isWord : List Char → Bool
  | [] => false
  | c :: cs => isWordStart c && cs.all isWordPart

/-! ## printable characters -/

def unprintableRanges : List CodeRange := gapTable
  [ "EyBgmaBBmbgdhabauaPhaBmbBybdaCdhBbdgqwaHkaBwbChbDxnChbBxbpaBcbbaleBfiCwaGfaibcbwahabcebjbcbe"
  , "hbdcafbzbdagdcbwahacacacbbafdcbdcbgeabgrjdajadawahacafbkadadbboebmghadaibcbwahacafbjbcbdgddc"
  , "afbsjcagcdaeccabaccccdcmdfcdaebbfbnvenadaxaqbjadaegcadbbbebkgwadaxakafbjadaegcfcaebkacmnadaB"
  , "zadagdqbBaadascyajabbhcbdgabaifkbdlCgdBdBkcabafayabaxbfabagbkbeBfCuaBkdBnaBkapanBkHqabebbOna"
  , "ebhabaebBpaebBhaebhabaebpaCfaebCpbBgcBafDibgbYqaBccDlgwiyiulnadaclDqbkfkfoalfDlgBreCsjBfamdm"
  , "dbcBqbfkBsdBaflcCkbCnaBdblfkfobBfBwCzcBvaEmhCicpcCigBrblhBreUobgbBmbgbiabababaBfbCbapaobgatb"
  , "dajqyhBvqcbBbancBhoBhoFkdZnyluCRsbBgaNleBtabebbCegcnyihahahahahahahahaEwBhBaaDllIgzmeClaDibD"
  , "zeBraDqaDglBvaBRIrcCdiNktHchHvecabafxChckfCehCshmfEmkBecDaaldBhaCdiobkbDzxBcjgbgbgihahaCidEw"
  , "bkfQNslxdBxMNbOcbEcBlhlfeBaafabacacaEvpRdbCcgbBfBqfBzataedfaFfdHicgbgbgbdchahmcbmaBaatacapbo"
  , "BhEteddBtcDkancbBuBuEzBdcBxoBcdBkiBeeBreBeaBldoBpGcbkfBkdBkdBohCakmapahacalapahacCoLziwjixga"
  , "BqajCqgbbaBsaccbbxaCuhjBvtaceBhcBbebClCedubByaceiadaBdbddkgjgCmBfBndmiCccBdbBbeBagelhDbCvCcB"
  , "zmBzgBuhkLhBfaBqadbcCzBohBqvBaBlBctxiDadBkiCkafmzgkfCbashBniDsauksaBsCmhabaeapalfChekfeaibcb"
  , "wahacafakbcbdbbfbehbhcfFiDoafBdCuhkGjCcbBmBhCrkkfnsCgfkCbBbbpdxHcCiDvDflibbbiacaBeacbmikCrib"
  , "BublBaCuhDfmCvKcjaBtaojBdcBgbwaoCuhacaBscbacajhkfgacaBlacaggkLxzHaboBymBJnDxEhafkHoDXjDvmBPf"
  , "FZsWlMUaVxgBfakdDdakfBebgjCsjkahavetBAlDnDwCxdCfgrClfkcnJCahBVqBpjNFqeahacaLfBsdqehPgDKtEden"
  , "cjgkbeGYxBubxiEmChJmjBnbCwhEiuCsFxulDjizFeDhaCtacbbbcbeamabahaCnaebiahaBcaeafabchaNcbLgbBBao"
  , "fapBQlBfIqharbhacafIeBtcobkdcMhBfqCgebBVzhaeacapaHpbqBoCydkdcBEeCqCxCjHleaBbacabbbakaeababfb"
  , "dbababadacabbbababababacabbeahaeaeabakaredafarBzcKjBsdDwlpbpapaBljGsCdBdmBsdjgcngFxBLweqcncE"
  , "mlDlgmdbomdCehkfBohBebcCzNclobfcfchiBdclegjkfihhiFraCdBkkBNpCLFcBfGDtgIobINqnLBlEPiUwCFxHHzB"
  , "OTMqJgLECt" ]

def isPrintable (c : Char) : Bool :=
  if c.toNat < 0x80 then 0x20 ≤ c.toNat && c.toNat < 0x7f
  else !unprintableRanges.any (·.has c.toNat)

end CommandLine.Text
