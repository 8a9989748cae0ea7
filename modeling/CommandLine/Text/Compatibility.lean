import CommandLine.Text.CodeTable
import CommandLine.Text.PairCode

/-!
# Compatibility form of words

Two spellings of a word that differ only in presentation (full-width letters, ligatures, a letter
with an accent against letter and accent) name the same thing.  A word is brought to its
compatibility form in three steps: each character is taken apart, the marks after a base character
are put in order of their class, and base and marks are put together again where a composed
character exists.  ASCII words are their own form.
-/

namespace CommandLine.Text

def partSigns : PairCode where
  asciiSigns :=
    "ABCDEFGHIJKLMNOPQRSTUVWXYZghijklmnopqrstuvwxyz!#$%&()*,;<>?@[]^_|~".toList
  pairs :=
    (" 6 5 4 7 3A3A4 2 8 1.6 9A2.3 f:6+3Eb99JdK5.5.2Q2Q411:2:45EH0K4k5.4.7eeka.ZGa38K2tdtc14-fH2" ++
      "31k9b9E1b31d-&N1)4)330.;+; ;>1>0:;<e9HW_|8").toList

/-- the table of the parts of characters (Hangul syllables go by rule), a map table written in signs.
A plus sign stands before the last part of a character that is composed again of its parts. -/
def partWords : List (List Char) := (partSigns.decode
  [ "a0g0 a8g0<8 aaP1 afg0<4 b2-%:32j<1Rc bƮ%27$Af bc:zW044N4 Ƌ(2E3Ɩ(c0h1[C1@C1>2C1>3C1>8C1>a c7h"
  , "3X7C5[C5@C5>2C5>8C9[C9@C9>2C9>8 d1he>3Cf[Cf@Cf>2CfƜ&ƭ%9:55[B5@B5>2B5>8B9@ e0P1[A1@A1>2A1>3A1"
  , ">8Aɂ%e7P3X7A5[A5@A5>2A5>8A9[A9@A9>2A9>8O1Pe>3Af[Af@Af>2AfƜ)8O9:75[D5@D5>2D5>8D9@Of:79˨)4A1>4"
  , "C1>6A1>6C1X8A1X8C3@F@C3>2F>2C3>7F>7C3>cF>cC4>cAƇ%Z2h5>4A5>4C5>6A5>6C5>ʬ&7C5X8A5X8C5>cA5>cC7>"
  , "2A7>2C7>6A7>6C7>7A7>7C7X7A7X7C8>2A8>2J28h9>3A9>3C9>4A9>4C9>6A9>6C9X8A9X8C9>7J32h9maA9KaCa>2A"
  , "a>2CbX7AbX7J39hc@Ac@CcX7AcX7Cc>cAc>cCc.b7AƆ$w3he@Ae@CeX7AeX7Ce>cAe>cHbcKe wchf>4Af>4Cf>6Af>6"
  , "Cf>bAf>bJ54:52@D2@B2X7D2X7B2>cD2>cB3@D3@B3>2D3>2B3X7D3X7B3>cD3>cB4X7D4X7B4>cD4>cJ68:55>3D5>3"
  , "B5>4D5>4B5>6D5>6B5>aD5>aB5>bD5>bB5X8D5X8B7>2D7>2B9>2D9Ǝ)8Ba@Da@Ba>7Da>7Ba>cDaɈ&Ja0hf+zbAƇ$Ja"
  , "fȺ#zbD5ƒ%c4h4Va<cC4na<cAƊ'CcmaCcKaAcKaCemaCeKaAeKaC1>cA1>cC9>cA9>cCf>cAf>cB5>cD5Ǝ&<8>4DƋ(Ɩ&@"
  , "DƋ(Ɩ)cƖ&ǂ*[DƋ(Teh1Ǒ'AƋ(C1<7>4AƋ)c6>4 e6>4Je6h7>cA7>cCb>cAbɒ&X8AfX8CfN2Ǩ&Ƌ(Jb7>cH92>cAa+ˡ%Va"
  , "˧%GnaC7@A7@Jf8he[Ae[C1<a@AƋ)c6@ e6@ d8@O8@C1>fA1>fC1QZA1QZC5>fA5>fC5QZA5QZC9>fA9>fC9QZA9QZCf"
  , ">fAf>fCfQZAfQZB2>fD2>fB2QZD2QZB5>fD5>fB5QZD5QZB3X6D3X6B4X6D4X6H1eh8>cA8>cy6h1>7A1卷)7A5X7Cf俯)"
  , "Ƌ(Cf<3Ɩ)3Ɩ&>7Af>7Cf倓)Ƌ(B9>4D9>4Hb0P8H66AaD2H7_7bH81D7D_d8g0<6j<7j<ajN28j<3j<bHe0g63AcD3D8H9i"
  , "40-341]0E43:z3?8<1E74g#E7ag0N4i7e:3b s4g0<1j<8@E91@ b7E95@E97@ES@ sc:39f@ se:3a5@Ea9@E#Ǐ)aa:"
  , "3S>8 ƨ%8R1@R5@R7@E#@Ec5ǀ)ca:3bǀ&cǀ'fƨ'@Ec9@Ed0:3b2R8Eaia5<1ƈ$ǀ%6Ec0Efƨ#aEf1-3f2:3c1Ef4:398Ri"
  , "f9:3a3C00h15[ ƈ%8C03h13@C07h06Ƙ&ch1a@C18[C23>6C19:Ɣ%6C39h3ƌ&50h35[C3Ǡ&53h33@C57h56Ƙ&ch3a@Cs["
  , "C4Ǡ&76h74>fC75>fCc1h16Ǵ&ƈ&d0h10>6C;Ȝ&0>8C3ƈ&d6h15Ƥ&5Ƹ&ahd8Ơ&坚'6Ƹ&6Ɛ&7Ɛ&ƈ&e2ɴ&4C3ƈ&1Ǆ&sƴ&eƐ&e"
  , "ƴ&ahe8ƌ&Ǩ&2d>8C4d>8˔&4C4ƈ&23Ơ&3Ơ*bC4ƈ&27Ơ&ƈ&f8h2bƔ&b>8B87:565V82M2P27+653 ƈ%4G8ƈ#Ɛ&5rƐ%75P27"
  , "K74G8ƈ%cƐ$rƐ&0Pd5ư%c2Pc1ƌ%d3Pd2ƌ#L29:928+93cLz:9;ƌ&4:933ƌ%58:915.ƌ$16ƈ&7ƈ&cƈ%21ƈ&2ƈ&bƈ&fƈ%cb"
  , ":9c7+9be ƈ$d7Ldc:9a1.9bcLa2ƈ%df:9afƌ$a33:a32.a3ƌ#6:asƌ%59:a16ƌ%17ƈ&cƜ&e:a2bƌ$b48:b47+b56 b4b"
  , "ƌ$%e Ɣ%7 b5c:b21.bƬ#22ƈ$#4:#2+bd7 bca:bc6+bbe bc7ƈ&6Ɯ$c48:c46+c56 cc0:cbf+cd5 cc7:cc6ƌ$ƈ%Ơ#a"
  , "Ɣ%c2Ɣ#.cc2Ơ$d4a:d46+d3e d47ƈ$Ɛ$57 dda:dd9+dca ddcƌ&f dd9.dcfƘ$Ɣ$df e33:e4d.e32 e%:ecd.eb2 ed"
  , "c:eab.eS ƈ$a1O0c:f0bO43:f42.fb7O4d:f4cƌ%52:f51ƌ&7:f56ƌ&c:f5bƌ%69:f40.fb5O73:f71.f72O75ƌ&4Ob2"
  , ".f80ƈ%71ƌ%%ƈ'Ɣ)81:ƌ(93:f9Ȕ&9d:f9Ȕ&a2:fa1ƌ&7:fa6ƌ&c:faȔ&#:f9Ȕ$J026:1025+102eJ0fc:10dcJb06:1b0"
  , "5+1%5Jb08Ə#7Ə(aƏ#9Ə(cƏ#bƏ(eƏ#dƏ'12:1bZƏ&%b:1%aƏ(d:1%cƏ'40:1%eƞ(fƙ(3:1b42Ə$T2ch1 c6T2e(;/2h2C"
  , "5J8eT33(3ah7T3chfy2B0B2T40(41:54B7A1T44(45g50T02MT48(49P4H59T4b(4cg5bA7T4fPbAd wbAfH54T54(55"
  , ":&16D0T57(58:74T&H6fD6T25T5d(5f:3b2T60(61:3c6A9D2T64(65:75T66(67Ư#Ec1T69(6aƳ#T78h3dT9bg52FH5"
  , "5O0H5cA6H5fH61H65Ta4(a6g68T7bH9dH6dT85H9fH71H70Tae(b1g72H78T%(b4g82JabTb6(b7g89T1cT#(bag8bDa"
  , "Tbc(beg90R8Je00h1X5A1X5C2>7M>7C2X3MX3C2QzMQzC3N27@AƋ(C4>7G>7C4X3GX3C4QzGQzC4X7GXƪ&dGXdC5<4[A"
  , "Ƌ(Ɩ&@AƋ(C5XdA5ƺ&Q;A5Q;C5ș&6AƋ(C6>7A6>7C7>4A7>4C8>7A8>7C8X3A8X3C8>8A8>8C8X7A8Xƪ&eA8XeC9Q;A9Q;"
  , "C9<8@AƋ(Cb@Ab@CbX3AbX3CbQ3Ɯ%zCcX3AcX3CcN23>4AƋ(CcQzAcƲ)dAcXdCd@Ad@Cd>7Ad>7CdX3AdX3Ce>7Ae>7Ce"
  , "X3AeƜ(zAeQzCeXdAeXdCf<3@AƋ(Ɩ)8AƋ(Cf<4[AƋ(Ɩ&@AƋ(B0@D0Ǝ)7D0>7B2>7D2Ǝ&X3D2X3B2ʙ'DƋ(B2QzD2QzB3>7"
  , "D3>7B3X3D3X3B3<1>7DƋ(B3<cƖ)cƖ(2ǌ&Ƌ(B4>7D4Ǝ&X3D4X3B4QzD4QzB4XdD4XdB5X4D5X4B5Q;D5Q;B5XdD5ƪ&<3@"
  , "DƋ(B5<4>8DƋ(B6>3D6>3B6X3D6X3B7[D7[B7@D7@B7>8D7>8B7>7D7>7B7X3D7X3B8>7D8>7B8>8D8捂)7D9彘)2Da>2Ba"
  , "X3DaX3BaQzDaQzA8ʨ&ȅ)aD9>aA1WbeD3<7Jea0h1X3A1X3C1>9A1>9C1<2@AƋ(Ɩ&[AƋ(Ɩ)9Ɩ&ǂ-3AƋ(C1N23>2AƋ(C1<"
  , "6@AƋ(Ɩ&[AƋ(Ɩ&Ǯ)6Ǯ)6Ǯ)6Ǯ-6AƋ(C5X3A5X3C5>9A5>9C5>3A5>3C5ʆ)5ʆ)5ʆ)5ʆ)5ʆ)5ʆ)5ʆ)5ʆ)5ʆ)5ʆ)9>9A9>9C9"
  , "X3A9X3CfX3AfƎ&>9Af>9CfȦ)fȦ)fȦ)Ƌ(Ɩ)9Ɩ&ǂ-3AfȦ)fȦ)fȦ)f)b@AƋ(Ɩ&[AƋ(Ɩ)9AƋ(Ɩ)3AƋ(Ɩ&X3AƋ(B5X3D5Ǝ&>9"
  , "D5>9B5)b@DƋ(Ɩ&[DƋ(Ɩ)9Ɩ&ǂ-3DƋ(Ɩ&Ǹ&Ȋ)9[D9[B9X3D9Ɯ)9D9>9B9>3D9>3Jf00:3b1+z3R1QwR1,[R1*[R1,@R1*@"
  , "R1,Y2R1*Y2E9ǘ&9ǘ&9ǘ*9ǘ*9ǘ*9ǘ*9ǘ*9ǘ(R5Ȱ&5QwR5,[R5*[R5,@R5*@Jf18:395ȝ&5ȝ&5ȝ*5*ƌ'ȝ*ǅ+2ʺ#7Ȋ&7QwR"
  , "7,[R7*[R7,@R7*@R7ʺ*7ʺ*7ȝ&7ȝ&7ȝ*7*[Ƙ'@Ƙ'ƌ'ʺ*ǘ*#Ȱ%#QwE#,[E#*[E#,@E#*@E#,ǌ'Ȱ*ǘ&SȰ&ǘ*SȰ*ǘ*SȰ*ǘ*S"
  , "Ȱ*fȰ&fQwRf,[Rf*[Rf,@Rf*@Jf48:39fȝ&fȝ&fȝ*f*ƌ'ȝ*ǅ+50:3c5ǅ$ƈ$wEc5,[Ec5*[Ƙ'@Ƙ'@Ƙ'Y2Ƙ'Y2Jf59扜%wJf"
  , "5bƍ#*[Jf5dƑ#Ȍ+fƑ'ǌ&9Ș&9Ș&9Ș*9*[Ƙ'@Ƙ'ƌ'Ș*˺*aǘ&aǘ&aǘ*aǘ*aǘ*aǘ*aǘ*aǘ(R1[R1<1R5[R5<1R7[R7<1E#[E#"
  , "<1Rf[Rf.˘&˸(ɐ&ɰ(ʱ%80:务)5R1*ƌ',<0Ɯ+<0Ơ.1Ơ.1Ơ-42Ơ+Ɛ)9Ǹ*9Ǹ*9Ǹ.9Ǹ.9Ǹ.9Ǹ.9Ǹ.9Ǹ,R7,ƌ'*Ƙ'ɰ.7*Ɛ+ɰ.7*"
  , "Ɛ+,Ǩ+ɰ.7,ƌ'*Ƙ'ɰ.7*Ɛ+ɰ.7*Ɛ+ɰ.Ǹ.c9,ƌ'*Ƙ+<0Ɯ+<0Ơ.1Ơ+Ɛ+,Ǩ+Ǹ-aǸ*aǸ*aǸ.aǸ.aǸ.aǸ.aǸ.aǸ,R1>6R1>4R1傴+"
  , "ƈ'ǐ'Jfb6:ƙ%2R1ˉ*ǉ&9ǉ&91喒(木&Y5j,E#j,jN42j<8Y2R7ȅ*7ƈ'ȅ*cȅ#7ƭ'ȅ*5[E95ǵ&7[E97Ɛ'ȅ*[j,@j咒+>6E#>4E#"
  , "<8[ƌ'<1Jfd6:3#Ƶ'Ƀ)Sʏ&ǁ&S[ESƹ'dg0*[j*@j*叟'>6ƈ&4柪'[ƌ'<1Ec1+z3ƈ&ƨ$ǀ'Ȓ)aǌ&aǌ&a5[柶*1Qwj<8[jǢ'A0Jf"
  , "柼$9僴+ƈ'供*f6ƥ#ǿ&9供*f[E9fǯ&9[Ea9Ɛ'Y5j.ʅ)j00g0jj Ɖ(ƒ0Zg010j17g0N33j24geHe.Ɔ%Ɖ$j2fg0j33g032.ƅ# "
  , "Ɗ$Ə,6g035.ƅ# Ɗ$Ə,cg1W1j3eg0<5j47:3fNfEfW1H1Nfj57Ǫ%ǥ05ȋ&70]A9j74-2079:34Hby12Edj7dƘ#eg8Aej80-"
  , "2089]ƨ-8dƘ#eg8j90P1A5AfD8H59A8j96-20SPbD0j9bƐ#c:73ja8:52n3H100P1WfK3 Ɖ$n3C3 b0mƠ$5P3WfKfFWfn"
  , "5J90H109:b0m6A7C8C8C8A8J27C9C9CcAcHZ5heCeKfHZ9-2Zb:50B2B2H120:53mdB4m5mcB4mdH124:5aH126:3a_1"
  , "28Ƒ&ahbC1<Ə$c-212dhǏ$fP5H1;-21zhƍ$3hd Ȃ$35-21s:5d0A_13bh6m1V8Ec0E%E93Ea0yZHw5h4Hw6-2w7P4Hw8-"
  , "2w9P_150甎)7 Ƌ(9Ƌ')<Ǝ)3E2Ƌ'Ɩ)5Ɩ)i3Ƌ)4Ƌ'Ƭ)6E5Ƌ'Ɩ(sE3Ƌ)5Ƌ)7Ƌ'Ƭ'C9C9.Ɔ%Ɖ'V6B6B6m9Ɔ%Ɖ&Ƥ,8B8B8m9B8"
  , "Ƙ'cH16d-216eh3CdA9A9.Ɔ%Ɖ'n6D6D6K9Ɔ%Ɖ&Ƥ,8D8D8K9D8Ƙ'cH17ǡ#7eP3AdH189]ˈ'H19ag190QsH192Ɖ&aeg194"
  , "Ǝ&cdg&ƥ&&4Ɖ'2Qsy04g203Ǝ'9g208Ǝ'cg20bQsy24g223Ǝ'6g225Ǝ'cg22b.ƅ# Ɗ$Ə,fg22e.ƅ# Ɗ$Ə+41g23cQsy44g"
  , "243Ǝ'7g245Ǝ'9g24Ȟ'60:3dƌ'2g261Ǝ'dg24Ɯ%Ǚ%EeƜ'4Ɖ'ǖ'74g272Ǝ'3Ɖ'8g276Ǝ'7Qsy80g27aƗ'bƗ'4g282Ǝ'3Ɖ'"
  , "8g286Ǝ'ǅ'acg2a2Ǝ'8Ɖ'9Ɖ'Ǘ'eǮ$cǮ'ɯ'91Ɖ'2Ʃ'ag2bƎ'%Ɖ'4Ɖ'ɮ&329-232a]08H460-2468:z$<$)$N2$N3$N4$N5"
  , "$N6$N7$.s$N9E2<H8)~N2~N3~N4~N5~N6~N7~.s~N9~)<~))~)N2~)N3~)N4~)N5~)N6~)N7~).s~)Ǹ*2<W9$WeE2WeE"
  , "3WeE4WeE5WeE6WeE7We sWeE9We$<We$)Ɖ'2Ɖ'3Ɖ'4Ɖ'5Ɖ'6Ɖ'7Ɖ&sƉ&ǚ%ș&eH8K1~t~K3~k~U~K6~K7~K8~K9~Ka~Kb"
  , "~Kc~Kd~Ke~Kf~n0~n1~n2~n3~n4~n5~n6~n7~n8~n9~na|4b6-24cfh1H4d0-24e9P1?Ha0剽&剸/a74:3aNaNdEd.Ɔ%Ɖ$"
  , "HadcgaddNsHc7cPaB6Hd6fgd61He9fPbcdHef3:9f9fHf00he00Ce28Ce36Ce3fCe59Ce85Ce8cCea0CebaB13fB165B"
  , "16bB182B196B1abB1e0B1f5B200B29bB2f9Bz5BzaB3sB341B35cB369Bs2B3b6B3c8B3e3B6d7B71fB8ebB902B90aB"
  , "915B927B973Bb50Bb80Bbf8Bc0fBc22BcsBc6eBc71BddbBde5Bdf1BdfeBe72Be7aBe7fBef4BefeBf0bBf13Bf50Bf"
  , "61Bf73Bfc3M08M36M4bA52fA534A587A597A5a4A5#A5e0A5e5A6f0A708A728Ab20Ab62Ab79Ab%AbcbAbd4AbdbAc0"
  , "fAcwAc34D06bD22aD236D23bD23fD247D259D25bD2acDs4Ds9D4dcD4e6D518D51fD528D5;D58bD592D676D67dD6a"
  , "eD6bfD6oD7dbD7e2D7f3D93aD9b8D9beDa74DacbDaf9Dc73Dcf8Df36Df51Df8aDfbdI001I00cI012I033I07fI089"
  , "I1e3I1eaI1f3I1fcI20cI21bI21fI26eI272I278I64dI66bI840I84cI863I97eI98bI9d2Ia00Ic37Ic46Ic55Ic78"
  , "Ic9dId64Id70Id%IeabIecaIf9bIfb0Ifb5L091Lw9L1c6L1ccL&1L577L580L61cL6b6L6#L6e8L751L75eL762L769"
  , "L7cbL7edL7f3L801L8a8L8dbL8dfLS6 SS SacLaa8Ladƅ$fLb25Lb2fL%2L%cLb5aLce5Le7ƅ$fLea5LebbLec3Lecd"
  , "Led1Lef9LefdLf0eLf13Lf20Lf3bLf4aLf52Lf8dLf9cLfa0E寸%?36]12?s:5341?39-;3aƏ#4?4c]4b>S?4e]4d>S?5"
  , "0]4fƏ(2]51Ə(4]53Ə(6]55Ə(8]57Ə(a]59Ə(c]5bƏ(e]5Ǹ(60]5fƏ(2]61Ə(5]64Ə(7]66Ə(9]68>S?70]6ǋ&Ɗ'a?73]"
  , "72ƨ(2ƙ(6]75ƙ(5ƙ(9]7ǚ)8ƙ(c]7bƙ(bƙ'94]4ț(9bg0<Sj.Ƥ'e]9ɻ(88<8a?ac]aǖ(ae]aƨ(b0]afƏ(2]b1Ə(4]%Ə(6]"
  , "b5Ə(8]b7Ə(a]#Ə(c]bbƏ(e]bǸ(c0]bfƏ(2]c1Ə(5]c4Ə(7]c6Ə(9]cˁ(d0]cǋ)fʷ'd3]d2ƨ(2ƙ(6]d5ƙ(5ƙ(9]dǚ)8ƙ("
  , "c]dbƙ(bƙ'f4]aț(f7]efƏ(0Ɗ(1Ɗ(2Ɗ(e]fʓ(%<c8$z-z32:Z00 Zaa Z02$35-z36:Zac$37-z39:Z03$3a-z3f:Zb0J"
  , "ZaEw1-3w3:Z06 Z21Ew5-3we:Z09Ewf-z63:Z61 Z60$65-z66:Zw$67-z68:Zc7 Zcc ZceJ&3J&7J&9JZcJ&dJ&f$7"
  , "1-z72:Z& Z20$74-z75:Z22 Z27 Z29$78-z7c:Z2b Z32 Z36Jw0Jw7Jwc$82-z83:Zf1$84-z86:Z57$87-z88:Z84"
  , " Z88$8a-z8b:Z91 Z94 Z9e Za1$92he00圀'09B6dbCe0aCe2dCe0bD532圭'19Ce01B929B73圲%E200g8q00~q02~q03"
  , "~q05~q06~q07~q09~q0b~q0c~q0e~q0f~q10~qZ~q1Ȅ*0q61ȟ*Ɛ.3Ɛ.5Ɛ.6Ɛ.7Ɛ.9Ɛ.bƐ.cƐ.eƐ.fƐ,ZȰ.ZƐ.2Ǡ3eȀ.9"
  , "ƚ(5qabƟ1Z2ƹ'E220g8me00~me8c|Ɩ$9~V6db~me94~V16dƬ)3Ɩ)Ƭ)5d~V341~K708~n0嫆*34~K728~.9&1~V71f~Ue5~"
  , "K82aǘ)9~n93e~V40d~n279~.8ca1~n9ȥ)2b4~mo3~V47c~Vb66~n6e3~mf01ǘ(c7~V354~n9ʩ)f1Ƭ(1eaƋ(f3W9B54fB"
  , "e7cA587Db8fE250:50V4mi2)E2N2E2N3E2N4E2Ni2N6E2N7E2.sE2N9E3<E3)E3N2E3N3E3N4E3N5 Z00E261-3262:Z"
  , "02E263Ə#5:Z0ƣ$9E267Ɣ#8:Z0bE269Ə#d:Z0e 兹( Z02Ɗ(3Ɗ(5Ɗ(6Ɗ(7Ɗ(9Ɗ(bƊ(cƊ(eƊ(fƊ&ZǮ(ZƊ(2Ʋ.qb7.ț'9 儾)"
  , "ǩ&74ǳ(eE280匩694B16dCe03B16bCe5dB341A708D06bAc34A728L&1B71f嬯&82aA709D93eB40dD279Ica1D95dB2b4D"
  , "9d8D53尐%L069B12aB370Ace8L805CfZB1SAb63叉.Bde6B3f3B33bB#7Bb66D6e3Cf01Icc7B354B91cE3N6E3N7E3.sE"
  , "3N9E4<E4)E4N2E4N3E4N4E4Ni4N6E4N7E4.sE4N9E5<$.ʠ#E2ƈ&3ƈ&4ƈ&5ƈ&6ƈ&7ƈ%sƈ&9ƈ$$<Ƌ')Ƌ(Ǚ&C8K7A5n2Ɖ%V"
  , "6CcV4m4?a2?a4?a6?a8E2d4-32d5]aa?ad?af?b1?%?b5?b7?#?bb?bd?bf?c1?c4?c6?c8E2eǕ#e9]ca?d2?d5?d8?d"
  , "bE2o-32f2]de?e4?e6E2f5ƙ#a]e8E2fbƏ#e]efCo4V48c?a2<cf<9a<fc<c8?a2^b<d5<a1Ɣ'f3<d8Ʋ'a2ƙ(c^b?a4<c"
  , "bƭ'af<S?a4Ɣ%ɰ&a6<a9<f3?a8<#<afȌ)Ƽ(8Ɣ'ab<fc?aaǐ'#Ə(c^0 ƨ&a4^a?ab^9<c3ɦ(b^d^aǕ(b<S^d<f3Ɣ)ɿ(e?a"
  , "d<S.ƞ(Ɣ,cȥ)d^5^aƔ,S^b<bf<SƲ-dƊ)˅)^9^0ƞ)^1ʱ)^bƞ-fɵ*ǋ2Ɣ3<c8ɿ(fȪ(b<S˙(dƞ(dȂ(d?bȑ(#?%^b<ca?%ƞ'db"
  , "<9a?b5Ǖ%Ǯ(?b5倰)俛,b7^a偢1bbƲ)Ə-8 ˨(ț,c6<S<b7 ɵ&S^b ʄ+ca<ce?ceˏ,cfȹ'c4 免.Ȃ-ƞ.Ʋ(Ȗ*^c^b?d2兦)<#<c8"
  , "ƞ2fƔ1%?d2ɍ*凊(儇.<Sƞ(3ț(8Ɣ'9ƭ&˷&a7ǐ)^9ʢ'd8Ȍ%˨&fɈ)8Ȗ(dƏ,cb.勘'8^b<c4ƣ(凞-d8˙-7ȹ(8ˀ,bf?dbʝ(4侁,dbʓ)"
  , "Ɣ,f3Ʒ,fʝ.bɒ)Ə)Ʒ(e傼-dƔ)Ʋ(e˲(f?de^b<aƏ%ɫ(7^7ǚ(fǕ)Ɣ)^aƊ).偄1b?e1劜)Ə.凞*刽5e4厂1e4ǟ-6.吓( ȇ'3ǆ-a^9 ɫ$"
  , "傞+fc?e˅&偧(Ʒ(c^0?ec例,b1<Sǳ%勘0n0#$ƈ&2ƈ&3ƈ&4ƈ&5ƈ&6ƈ&7ƈ%sƈ&9ǈ(Ǔ))Ƌ)2Ƌ)3Ƌ)4Ƌ)5Ƌ)6Ƌ)7Ƌ(sƋ(Ǯ(2<Ƌ(Ʉ)"
  , "Ǯ)2Ǯ)2Ǯ'A8V0K1GK1C1V5MK1n2AfV6D0K3GKdGKdN2Ɖ'3C9V5Be73t10A62dV48cB927Kb63A60eKcbbA82aVf0fmf1a"
  , "n93eD0m1Aem1Rcm1Adm1Abm1Cbm2Cdm2C7m2FK1KcAb.ƌ'D0m6Aem6RcƇ&K7AdK7AbK7C8naAb.Ɖ$CdƉ'7Ɖ%B4Ɖ%RcKc"
  , "AdKcGǯ'cA6KdAeKdRcKdAdKdFKdAbƒ(N2FƉ&Ə&bƏ(ˀ%FƉ&Ə&bƏ(W215n3Ƌ*N2B0Kʜ$Ɖ$CdƉ'7Ɖ%D2K1kƉ(ǉ'Ƒ0N2D0n3"
  , "Aen3Rcǰ%n3D0V6AeV6RcV6AdV6AbV6CdV6D0V7AeV7RcV7AdV7AbV7Cƌ&Na9CdNa9A1WeKdWeC2n1FK3FkC3ȝ%侯&3KfW"
  , "eGm2C7n9A8K1C8V0A9KeCbmbCbmdAbn4AcKdAcKeAcKfK7Acn8AdtAdK9信'fKcB0m8D0Ȟ(B0V0mdB0V2D3n2B3n6B7tB"
  , "6ȭ&dC1Ƌ'$Uei2Uei3Uei4Uei5Uei6Uei7Uei8Uei9Ue5$<Ƌ')Ƌ)2Ƌ)3Ƌ)4Ƌ)5Ƌ)6Ƌ)7Ƌ(sƋ(Ǯ(2<Ƌ(Ʉ)Ǯ)2Ǯ)2Ǯ)2Ǯ)2"
  , "Ǯ)2Ǯ)2Ǯ)2Ǯ)3<Ƌ'Ǯ'A7凍&a69ch4aC4c a770:a76f a7f2h3C6B1Ǝ#8:126J53 ab5c:a727 a%7H6bƓ#2 ab69g8dO9"
  , "00:8c48A6f4梉&cc8Aed1Ce32B3e5枔'9cB951L&1B587B948A1f6D669Df85I63fI7baI8f8L08fAa02Ad1bD0d9D3deI"
  , "43dL16a Sf1Ce82B375Ab04D21bI62dLe1eBd50AfebI5cdI964Mc9I&8I81fBecaA717Ad6aD2fcL0ceCf86B1b7B2d"
  , "eGc4Aad3D210D6e7樭&606I65cIdefL732Lb6fLdfaD88cD97fDda0I3c9L;4Le7fIad6B8dfBf04Dc60I07eD262D8˙%"
  , "2L6f7B8d8Bc62Aa13AddaAf0fDd2fDe37L64bB2d2I08bB&cB1ccDa1cDdbeI3f1L675Ib80Mc˨%IafeCe39Bbe7A012"
  , "Ds7D570Bz7D8fbCfbfBfa9Ce0dAcccA578Dd22B3c3B85eD701I449IaaaAbbaIfb0Ac88MfeI2e5Fa0D565CeaeB169"
  , "B1c9A881Dce7I26ʬ$2L1cfB2f5B442浡&ocA5c5AffeD92aL5adLa6aLe97LeceB29bA6c6Ab77If62Be74A190M00G9a"
  , "Af23Dw9D489D9caDdf4I06fIf26I4oL023L34aB217B2a3B4bdD0c8I8c2ɺ$Bec9Bff5F7bAbaeDc3eD375Co4B6f˷%B"
  , "dbaA01cD3b2D469Df9aI046L234L6f6L748L818Cf8bD9aeL1b4L6b8A0e1Ce86B0daBboBc3fA5SAa02D1ceD642I4f"
  , "cL07cLf8dA688L62eB289A77bA7f3Ad41Ae9cD409D559D86bDd10L85eB16dM2eL678B02bBd19AdeaIf2aBf8bAw4A"
  , "817Ds7L686B229B40fBc65A613A74eA8a8Ace5D406D5e2Df79I8cfI8e1泩&6e2B33fAebaB4&D&0D498I5faL6a3Lc5"
  , "7Le9fA797AdcbI1e8渤&b20Dc92D2c0D0SIb58Cec0I336B23aB207Bea6Md3Dcd6Bb85Ad1eA6b4If3bI84cL64dI98b"
  , "Bed3Bw0B5c0Oa10:585aOa12P674Oa15:5&eD32aD6caD93cD95eD965D98fL756DcbeDfbdOa20:8612Oa22:8af8Oa"
  , "25:90sL0fƣ$a:98efL8fc S28Ldb4L0deL6b7CfaeB0e7BwdB2c9B2e4B351B59dB606B668B840B8a8Bc64Bc6eA094"
  , "A168A18eA1f2A54fA5e2A691A8ʧ$77Ae1aAf22D16eD22bD422D891 壓%949D948D950D956D95dOa52xa53:798dDa4"
  , "0Da81Dbc0Ddf4De09De41Df72I005I1edI279Iƅ$457I910IS6Ib01I%9Icd3Id08Ifb6 ˅%6e3L7ffL83bA075H42oI"
  , "218Oa70he26B1b5B168Cf80Bw5B180B2c7B2faˋ&555B5SB5e2B85aB8%B944B954Ba62Bb28Bed2Bed9Bf69BfadA0d"
  , "8AweA10˳(60˸$M34Fc4G1cG52A556A674哵&71bA756燥(a凩'dbAecb侠&01e侥&7a7D235D2af傤&471D506D53bD6&D61f"
  , "傽&6dbD6f4D74aD740D8ccDab侯'c7bDd5b侹&f3e侯&352I3efI779I941I986IS6IabfIaf8Iacb侾&afeIaedI%9Ib8a俈'"
  , "sL072L1SL276L67c俗'56L7db信'0bL83bLb12Lf9cy84ay844H33di#dC018C03_524_5cd0H7ed3Lf43Lf8eOb00P6K6"
  , "A6K9A6嬃&Ə(ƒ$D3n4Ɔ%Ob13:574V76 ƈ$65ƈ&bB7eƘ*dOb&:5d9Vbƺ$f:5f2Vb7Be2Bd0Ob22xb23:5d3Ob24xb26:5db"
  , "Be8BeaHbBe9Vc1ƈ&2ƈ%bcVc1ƌ*Ǔ$Vb7ƈ&8ƈ&cBd1ƈ&2ƈ&3ƈ&4ƈ&5ƈ&6VbcObs:5d8ƕ&9ƈ&aƈ&bƈ&cƭ'e:5deƍ&40:5e"
  , "Ƿ&e1ƕ'3:5e3ƕ&4ƕ'6:5e6ƕ&7ƈ&8ƈ&9ƈ&aȡ)#ɉ&fȄ&fǍ&fɩ%dcA71A71A7bA7bA7ƈ'eA7eAƈ'80A80Aƈ'7aA7aA7ƈ'fA7"
  , "fA7ƈ'9A79Aƈ'a4Aa4Aaƈ'6Aa6Aƈ'84A84A8ƈ'3A83A8ƈ'6A86A86Ob7dxb7e:ƒ%7A87ƈ&dA8dA8cA8cA8eA8eA88A88A"
  , "98A98A91A91Aa9Aa9Aaƈ'fAafAƈ'%A%Abƈ'1Ab1Abƈ'aO#fxba0PbaAbbAbbƈ%d5U4Aƈ'c1Ac1Aƈ'beAbeAƈ'd2Ad2Ad"
  , "2U4ƈ'Obd3PadAadAƈ'c7Ac7Ac6Ac6Ac8Ac8驓)cbAcbAc5Ac5Ac9Ac9Ad0Ad0ƈ'G9G9rU4t7ƌ)ƌ+d5rU4ƌ+k8ƌ)ƌ+c7ƌ*"
  , "ƌ+6ƌ*ƌ+8ƌ+Ǭ*0ƌ+Ƙ3!ƌ+Ƙ-ccAccƈ'ɜ*ƌ(urU4lǌ3pM8vM8uM8teM8lM8!M8pMavMauMateMalMa!MapMbvMblMb!MbpM"
  , "cuMclMdvMdlMevMeuMelF3vF3uF3teF3lF5uF5lF6vF6uF6teF6lF7uF7lAslF9vF9lFavFalG1vG1uG1teG1lG1!G1p"
  , "G2uG2lG2!G2pG3t7G3vG3uG3teG3k4G3lG3!G3pG4vG4uG4teG4lG4!G4pG5vG5uG5teG5lG5!G5pG6vG6uG6teG6lG6"
  , "!G6pG7vG7lG7!G7prvrurterlr!rpA;K70AzK70G9K70jkcU1jkdƋ)eƋ)fU1jU0Ƌ)1K7兺*zƌ*2兆66兒=zƈ&2兊.6兒5zƈ&2"
  , "兊.6兒5zƈ&2党.6兢/傂/偲7做?偂>7G5lG6Kzƈ&2倚.6倢29侀)zr˸'lrk6r!rp勶?te侼67勶F7勮F7Mbl勎G勆Ste勎O勆g劶/办G劎F7劆?剶F7"
  , "剮570剦F7倰7倘/倀:bk7F3lF3k7F4lF4k7ʨ3lɐ/Ƞ2勑(G勒(G勓(F7!F7pF9!F9pFa!FapF3!F3pF4!F4pMd!MdpMc!McpMe!Me"
  , "pF5!F5pF6!F6pF4vF4uF4teʤ-zF3KzF5KzF6K3ɠBɠ~ɠ~ǀ;偔27F7剌;ǐ7囪/M7kbƈ'Od50P2avlMauvMauƌ+Ƥ*elMalvMal"
  , "uƌ*eMcluMƌ+dlpMdl!F3uvF3vuF3v!F3luF3lƌ+vF3llFƌ+5uuF5ƌ+llF4ulF4ƌ+vpF4l侹+ƌ+lFƌ+6u!F6telFƌ+7luF"
  , "7lƌ+Ƥ+pF9vlF9lƌ+Ƙ+!FallFalpFal!G1telGƌ+2luG2llG4uƌ+pG4u!G4vvG4ƌ+Ǡ*4ƌ+luGƌ+5uvG5ulG5upG5vuG5v"
  , "Ƥ*evƌ'lOd92:Ƶ)eG7lvG7llG6uƌ+!G6vlG6vƌ+!G6lpG6l!rllrllM8tepMavƌ+!MaƤ.e!MalpMal!MclpMcu!Mc兽.e!"
  , "F5upF4upF6upG4vpG4lpruprvprlpG5lpG2ʠ+up偵.4ulF9lpG3Ƽ+v噢+Ȩ+lG3llƘ+Ƽ+McupMdvpG5vpG1lpM8upǠ+冡.5l"
  , "l˨'ȴ+pOdf0:Ʃ%4Kd2G2ƌ'M7k4k4k7M7k3t8KzG5ultf ǈ'ʭ&AzK33k8k4F9k4pk7G8Ơ&4lǀ'!ƌ+W0.ȋ.W0.ǎ*Ɠ'Ǒ.Mck"
  , "4W0vk4t7ɐ)zKccƔ'Oe10gcOeZxe12]01Oe13xew:3aH1EfOe17xe18]16鐸(Oe;:Ƌ$jwj13BfBfOe35xe36g8DbDdOe39"
  , "xe3a]wOe3bxe3c]10Oe3dxe3e]0aOe3fxe40]08Oe41xe44]0cOe47:5bBdj<5j<5Ǝ-BfȎ%Hc ɜ$ȴ$54:3bEaEfH1Hȍ%"
  , "59xe5aȯ+5dxe5e]wH3H6Oe61xe62gaHdEcEeEdOe68:5cOe69xe6ag4C0Oe70g0kbG0kbjkcOe74g0kdOe76g0keG0ke"
  , "jkfG0kfjU0G0U0jU1G嶇*2G0U2M1M7U3M7Uƈ'4ƈ'G8ƈ'Ƙ*5ƈ'rU4rU4Ɛ/M7Oe8exe8fP27M8M8Oe92xe93:Ǝ&4xe95P29"
  , "MaMaOe98xeS:ƒ%bMbOe9cxe9d:ƒ%cMcOea0xea1:ƒ%dMdOea4xea5:ƒ%eMeOea8xea9:Ǝ&axeabP2fOeacxeadP;Oeae"
  , "xeafPzOeb0xeb1P32F3F3Oeb4xeb5:ƒ%4F4Oeb8xe#:ƒ%5F5Oebcxebd:ƒ%6F6Oec0xec1:ƒ%7F7Oec4xec5:ƒ$sAsOe"
  , "c8xec9PsF9F9Oeccxecd:ƒ%aFaFaG1G1G1Oed4xed5:ƒ%2G2Oed8xed9:ƒ%3G3Oedcxedd:ƒ%4G4Oo0xo1:ƒ%5G5Oo4x"
  , "o5:ƒ%6G6Oo8xo9:ƒ%7G7Oocxod:Ǝ%oxofP48Oef0xef1P49rrrG4t7U3ƌ*ƌ+4ƌ*ƌ+5ƌ'ƌ+ƈ'Of01xf5eg1Of5fxf60g9"
  , "85?02Of62xf63]0c?01?fb?f2 纑'3?a5?a7?a9?e3?e5?e7?c3?fc羸3Of75xf76羸jOf85xf8a羸8Of8fxf93羸.Of96xf9"
  , "b]e8?ef?f3Of9exf9f]S Z60Ofa1xfa裻/Ofa5xfa裻%Ofa7xfa裻%Ofaaxfa裻*Ofb1xfb裻*Ofb5xfb裻%Ofc2xfc7:Z61Of"
  , "caxfcf:Z67Ofd2xfdƞ$dOfdaxfdc:Z73Ofe0xfe1:a2 acj<4 a6 a5ja9Ofe8g5Ƚ$e9xfecg190H5a0H5cbJ0781-Ɔ#"
  , "2gd0 e6H9_53ƛ$7ga3 ab66Ha5Ha4Ɨ$bƲ$cg56T91H58H5eHa_64H62H60H9bJ27H9cH67H8ǁ$S-Ɔ#agaaH6cTfȻ#78e"
  , "H6eTf05H8Ɗ%6O8J07a3-Ɔ#4g76D1H7aTf0Ɲ%8Ɲ$9g7dH80Ha8Ha6Ƚ#7Ha7H88Hc71J07b2g8fƊ$Ǖ$b4ga1H98Ɣ$6Ɣ$8:"
  , "1c0Tf0aTf1e Z09a:Z0S+Z0baƒ$cƒ$bƒ)ab:Z0a5ƒ'Z2e:1Zz+1Z27JZ32ƌ(34b:Z347+Z33e ƌ(57Jwbb:1w#+1wba "
  , "ƌ)0Jwbeƞ*d Z5ba:Z5b8+Z5af Z5#ƌ(9s:Z935+Z9;T15e:&157.&165T158ƌ%ƌ+Ɔ$eƒ0fƒ/70ƒ01ƒ02T1bb:&1#Ǭ)ba"
  , "ƌ)#Ǹ/baƒ+Ƥ0fƤ0fT400(419h1T41a(433P1T434(44dƞ&4e(454ƞ&56(467P9T468(481ƭ&82(49bƭ&9c(49e/2h1C4T"
  , "4a2h7T4a5(4a6haT4a9(4acheT4ae(4b5:53T4b6(4#Ǚ&bb(4bd/2P6T4be(4c3ȗ&c5(4cf:70T4d0(4eɱ'ea(50ɱ&50"
  , "4(505hƏ%7(50ah4T50d(5whaT516(51cȘ%51e(537ǋ&s(539hƏ%b(53eǋ&40(544h9T546hfT54a(550ǔ&52(56bǔ&6c"
  , "(58ȟ'86(59fƞ&a0(5bǲ'ba(5dɛ'd4(5edƞ&o(60Ȯ&608(621h1T622(63bƞ&3c(655ƞ&56(66fƞ&70(689ƞ&8a(6aǸ%z"
  , "H37T6a8(6b8:391E98T6ba(6c0:3a3y07T6c2(6da:3b1y02R5R8RaEc6Ec1Ec0T6e2(6f2ǖ+f4(6faǖ,fc(7wǖC71c("
  , "72cǖ*72e(734ǖ+736(74eǖD56(766ǖ+68(76eǖ,70(788ǖD90(7a0ǖ+a2(7a8ǖ,aa(7c2ǖDcƭ%b:3dcT7ce(7d7]T7d8"
  , "(7e1]T7e2(7ebƏ'c(7f5]T7f6(7ff]Jo00-1o01P27McMfJo05P48F2MdF7rJo0aƲ$dP43F3F9G1F5G2AzF4Jo15-1o1"
  , "6P2aMeA;F6AsFaA6eAbaAa1A6fJo21P28McJo24P47Jo27P2dJo29:Ȍ&2Ȍ$2Ȍ8Jo34:Ȏ&3Ȏ$3Ȏ(Jo39P36Jo3bP3aJo4"
  , "2:Ǿ&4Ǵ(4Ǵ(4b-1o4d/2P44Ƕ'Jo51:Ǹ*5Ǹ(57:Ǯ&5Ǯ(5Ǯ(5dPbƊ%f:ʄ&6ʄ,6ʄ(67:侎.6ʂ$6cȎ$3G6ʈ77Ȑ(7ʈ$7ʈ,79:侘-"
  , "Ɩ%ePa1Jo80-1o8倨084Ƙ$5P47倮38bƠ$dP44倮?9Ș$9倮8Joaʚ$Ȃ+a傪8aǼ$aǼDbǼ$bǼ:f100]We?Wc$WcE2WcE3WcE4WcE5W"
  , "cE6WcE7Wc sWcE9WcJfZ0g8m1~m2~m3~m4~m5~m6~m7~m8~m9~ma~mb~mc~md~me~mf~V0~V1~V2~V3~V4~V5~V6~V7~"
  , "V8~V9~VaW9?wV3<15C3B2C3m4B7V˗$;-1fw9h1C8芚(BƧ%3V3B0V0V6B7m3Jf16ahdm3Cdm4CdV2Jf190h4maJf200]7b"
  , "<4b?%.寒(Jf210P24bBb57B3cc訌)Ce8cB91aI9e3B929Cea4A620D121A5SB24dBf8cB18dA5b0B2&Dd42D51fIca9B8f"
  , "0B439AfwM95F55 逤&09L04aBde6Ce2dB3f3A;7Id70M53D981Da7aB408Ae80A709逸&533B272B5b6LwdJf240]wK72c"
  , "<15?w.Ǵ#Ə,8ƞ*Vb8ƞ*n0bƏ*t53ƞ+6d7Ƽ+2ddƭ)U5ƞ%Jf銇$f97B3efJfbf0-Ɔ#9]Hf800he3dCesCe41j122Cf60CfaeC"
  , "fbbB002B07aB0S簹&0cfE49ej63aBwdB154B164B177j51cE4#B167B18dj54bB197B1a4CeccB1acB1b5H9&f龽(3E4df"
  , "B23bB246˰&277E515B2c7粿+2faHf829-Ɔ#a:5;5Bz7B349糟&35aB373B37dB37fƅ$Ɗ$ja2cD070B3caB3dfjb63B3ebB"
  , "3f1B406B49eB4sB448B468B4a2B4f6B510B553B563B584ƅ$簉'abB5%B5c2B716絲&717B651B674纀&8oB7ceB7f4B80d"
  , "B78bB832B8zB8acHwe4B8f2B8f7B906B91aB922B962H16a8H16eaB9ecBa1bBa27B9d8Ba66E6oE6fcBb08B%eB%eH1"
  , "9c8Bbc3Bbd8胍&bf3H1b18BbffBc06Bf53Bc22E781Bc60Bc6eBcc0Bc8dH&e4Bd43H&e6Bd6eBd6bBd7cHf881-Ɔ#2:5"
  , "de1 s2fBdfdBe28Be3dBe69 s62y183 s7cBeb0Be%Beb6BecaHa392Befey3zy3zI201Bf22 ƅ$sc7H32b8H6&aBf62"
  , "Bf6b se3Bf9aBfcdBfd7Bff9A081E93aE91cA094y6d4A0c7Aw8AwcAweƊ'7a緇'b2A1a4A1afA&罎'1f6M10M1bM5dMb1"
  , "Md4F50yb0cF3dMfcF68As3Fe4ybf1G22Fc5Fa9Ea2eG69G7eG9dG77Ea6c翃'6cH;0aA5e3A6f8A649R19A691R08Eae4"
  , "B192B195A700A69cI0adC3d9繾,21A75eA753H33c3R49A7faA785A852A885H346dA88eA81fA9wE#dA942A9a3A9eaA"
  , "aa8H36a3AadbEc18Ab21Hsa7Ab54Ec4eAb72A#fHf8f5-Ɔ#6PbbaH3a8dH&0bH3afaAc4eH3cbcAcbfAccdAc67Ad16A"
  , "d3eAd77罆&d69Ad78AdȽ$d1eAd34Ae2fAe6eEd33罪&ec7H3ed1Adf9Af6eH3f5Ɔ$8eAfc6D039羐&01bEd96D04aD07dD0"
  , "77D0adj525Dw5H4263D19cH43abD228翅'50H4608D280D295H4735H48wD37aDsbEeacD3aieb8ƅ$D447D45c耄&485D4"
  , "caEf1bD524H4c36D53eH4c92D570y19fD610H4fa1H4fb8H5044EffcC008D6f4H50f3Ɔ$2H5Z_5133Hf945-Ɔ#6:771"
  , "eD71fD74aCʥ$78bC046C096H54&D84e螗&8ccC0e3H5626D956H569aH56c荧%D9ebC12f艣'4aDa4fH597cH5aa7Ɔ%DaoC"
  , "202H5babDbc6Dbc9C227H5c80Dcd2C2a0Dce8Dce3Dd00H5f86Dd63C;1Ddc7De02De45C334H6228H6247C35_62d9D"
  , "f7aH633eDf95DffaI005H64daH6523I060H65a8I070H335fC3d5I0b2I103C40bI13eBab5H67a7H67b5H3393Ɔ$cI2"
  , "01I204If9eC46bI291I28Ɗ$dB2%I2b1IƊ&dI2e6H6%cI2e5I3&I363I3adI323I3bdI3e7莝&353I3caI3ccI3dcH6c36"
  , "H6d6bH6cd5C52bI4f1I4f3I516H7ƶ$564H6f2cC55dC561H6fb1H70d2C56bI650视&667I669I6a9I688I70eI6e2芆&7"
  , "28I76bI786C5d7I7e1I801C5f9I860I863H7Ǒ$8dƅ$eC635I8faE4bbH78aeH7966C6beC6c7Iaa0苅'8aIc55H7ca8Ic"
  , "abIcc1Id1bId77H7f2fj804IdcbIdbcIdf0j8deIed4IfsH85d2H85edL094L0f1L1ZH872eLZbL2sHf9e8-Ɔ#9:92d7"
  , "L27cL3f9L415H8bfaL58bCS5L5b7Hȑ#C9e6L6c3Bdb2L723H9w5H921aCa6eCa76L7e0H940aCab2H9496荾'ƅ$2_95b6"
  , "L8e2C%3 S29 Sa7 Sc2 SfeCbceH9b;莲&c40LcfdCcceCcedLd67Ha0Ɛ$f8Ha105Ha20eHa291LebbCd56Lef9LefeLf"
  , "05Lf0fLf16Lf3bHa600" ]).splitOn ' '

def partsTable : List CodeEntry := mapEntries 0 partWords

def composedEntries : List CodeEntry :=
  ((partWords.zip partsTable).filter fun p => p.1.contains '+').map (·.2)

/-- the class of each combining mark: a range, and the class of all of it -/
def markClasses : List CodeEntry := mapTable
  [ "300-314:e6 315:e8 316-319:dc 31a:e8 31b:d8 31c-320:dc 321-322:ca 323-326:dc 327-328:ca"
  , "329-333:dc 334-338:1 339-33c:dc 33d-344:e6 345:f0 346:e6 347-349:dc 34a-34c:e6"
  , "34d-34e:dc 350-352:e6 353-356:dc 357:e6 358:e8 359-35a:dc 35b:e6 35c:e9 35d-35e:ea"
  , "35f:e9 360-361:ea 362:e9 363-36f:e6 483-487:e6 591:dc 592-595:e6 596:dc 597-599:e6"
  , "59a:de 59b:dc 59c-5a1:e6 5a2-5a7:dc 5a8-5a9:e6 5aa:dc 5ab-5ac:e6 5ad:de 5ae:e4 5af:e6"
  , "5b0:a 5b1:b 5b2:c 5b3:d 5b4:e 5b5:f 5b6:10 5b7:11 5b8:12 5b9-5ba:13 5bb:14 5bc:15"
  , "5bd:16 5bf:17 5c1:18 5c2:19 5c4:e6 5c5:dc 5c7:12 610-617:e6 618:1e 619:1f 61a:20"
  , "64b:1b 64c:1c 64d:1d 64e:1e 64f:1f 650:20 651:21 652:22 653-654:e6 655-656:dc"
  , "657-65b:e6 65c:dc 65d-65e:e6 65f:dc 670:23 6d6-6dc:e6 6df-6e2:e6 6e3:dc 6e4:e6"
  , "6e7-6e8:e6 6ea:dc 6eb-6ec:e6 6ed:dc 711:24 730:e6 731:dc 732-733:e6 734:dc 735-736:e6"
  , "737-739:dc 73a:e6 73b-73c:dc 73d:e6 73e:dc 73f-741:e6 742:dc 743:e6 744:dc 745:e6"
  , "746:dc 747:e6 748:dc 749-74a:e6 7eb-7f1:e6 7f2:dc 7f3:e6 7fd:dc 816-819:e6 81b-823:e6"
  , "825-827:e6 829-82d:e6 859-85b:dc 898:e6 899-89b:dc 89c-89f:e6 8ca-8ce:e6 8cf-8d3:dc"
  , "8d4-8e1:e6 8e3:dc 8e4-8e5:e6 8e6:dc 8e7-8e8:e6 8e9:dc 8ea-8ec:e6 8ed-8ef:dc 8f0:1b"
  , "8f1:1c 8f2:1d 8f3-8f5:e6 8f6:dc 8f7-8f8:e6 8f9-8fa:dc 8fb-8ff:e6 93c:7 94d:9 951:e6"
  , "952:dc 953-954:e6 9bc:7 9cd:9 9fe:e6 a3c:7 a4d:9 abc:7 acd:9 b3c:7 b4d:9 bcd:9 c3c:7"
  , "c4d:9 c55:54 c56:5b cbc:7 ccd:9 d3b-d3c:9 d4d:9 dca:9 e38-e39:67 e3a:9 e48-e4b:6b"
  , "eb8-eb9:76 eba:9 ec8-ecb:7a f18-f19:dc f35:dc f37:dc f39:d8 f71:81 f72:82 f74:84"
  , "f7a-f7d:82 f80:82 f82-f83:e6 f84:9 f86-f87:e6 fc6:dc 1037:7 1039-103a:9 108d:dc"
  , "135d-135f:e6 1714-1715:9 1734:9 17d2:9 17dd:e6 18a9:e4 1939:de 193a:e6 193b:dc 1a17:e6"
  , "1a18:dc 1a60:9 1a75-1a7c:e6 1a7f:dc 1ab0-1ab4:e6 1ab5-1aba:dc 1abb-1abc:e6 1abd:dc"
  , "1abf-1ac0:dc 1ac1-1ac2:e6 1ac3-1ac4:dc 1ac5-1ac9:e6 1aca:dc 1acb-1ace:e6 1b34:7 1b44:9"
  , "1b6b:e6 1b6c:dc 1b6d-1b73:e6 1baa-1bab:9 1be6:7 1bf2-1bf3:9 1c37:7 1cd0-1cd2:e6 1cd4:1"
  , "1cd5-1cd9:dc 1cda-1cdb:e6 1cdc-1cdf:dc 1ce0:e6 1ce2-1ce8:1 1ced:dc 1cf4:e6"
  , "1cf8-1cf9:e6 1dc0-1dc1:e6 1dc2:dc 1dc3-1dc9:e6 1dca:dc 1dcb-1dcc:e6 1dcd:ea 1dce:d6"
  , "1dcf:dc 1dd0:ca 1dd1-1df5:e6 1df6:e8 1df7-1df8:e4 1df9:dc 1dfa:da 1dfb:e6 1dfc:e9"
  , "1dfd:dc 1dfe:e6 1dff:dc 20d0-20d1:e6 20d2-20d3:1 20d4-20d7:e6 20d8-20da:1 20db-20dc:e6"
  , "20e1:e6 20e5-20e6:1 20e7:e6 20e8:dc 20e9:e6 20ea-20eb:1 20ec-20ef:dc 20f0:e6"
  , "2cef-2cf1:e6 2d7f:9 2de0-2dff:e6 302a:da 302b:e4 302c:e8 302d:de 302e-302f:e0"
  , "3099-309a:8 a66f:e6 a674-a67d:e6 a69e-a69f:e6 a6f0-a6f1:e6 a806:9 a82c:9 a8c4:9"
  , "a8e0-a8f1:e6 a92b-a92d:dc a953:9 a9b3:7 a9c0:9 aab0:e6 aab2-aab3:e6 aab4:dc"
  , "aab7-aab8:e6 aabe-aabf:e6 aac1:e6 aaf6:9 abed:9 fb1e:1a fe20-fe26:e6 fe27-fe2d:dc"
  , "fe2e-fe2f:e6 101fd:dc 102e0:dc 10376-1037a:e6 10a0d:dc 10a0f:e6 10a38:e6 10a39:1"
  , "10a3a:dc 10a3f:9 10ae5:e6 10ae6:dc 10d24-10d27:e6 10eab-10eac:e6 10f46-10f47:dc"
  , "10f48-10f4a:e6 10f4b:dc 10f4c:e6 10f4d-10f50:dc 10f82:e6 10f83:dc 10f84:e6 10f85:dc"
  , "11046:9 11070:9 1107f:9 110b9:9 110ba:7 11100-11102:e6 11133-11134:9 11173:7 111c0:9"
  , "111ca:7 11235:9 11236:7 112e9:7 112ea:9 1133b-1133c:7 1134d:9 11366-1136c:e6"
  , "11370-11374:e6 11442:9 11446:7 1145e:e6 114c2:9 114c3:7 115bf:9 115c0:7 1163f:9"
  , "116b6:9 116b7:7 1172b:9 11839:9 1183a:7 1193d-1193e:9 11943:7 119e0:9 11a34:9 11a47:9"
  , "11a99:9 11c3f:9 11d42:7 11d44-11d45:9 11d97:9 16af0-16af4:1 16b30-16b36:e6"
  , "16ff0-16ff1:6 1bc9e:1 1d165-1d166:d8 1d167-1d169:1 1d16d:e2 1d16e-1d172:d8"
  , "1d17b-1d182:dc 1d185-1d189:e6 1d18a-1d18b:dc 1d1aa-1d1ad:e6 1d242-1d244:e6"
  , "1e000-1e006:e6 1e008-1e018:e6 1e01b-1e021:e6 1e023-1e024:e6 1e026-1e02a:e6"
  , "1e130-1e136:e6 1e2ae:e6 1e2ec-1e2ef:e6 1e8d0-1e8d6:dc 1e944-1e949:e6 1e94a:7" ]

/-! ## Hangul syllables: a leading, a vowel and at times a trailing letter -/

def hangulParts? (n : Nat) : Option (List Nat) :=
  if 0xac00 ≤ n ∧ n ≤ 0xd7a3 then
    let s := n - 0xac00
    let l := 0x1100 + s / 588
    let v := 0x1161 + s % 588 / 28
    if s % 28 = 0 then some [l, v] else some [l, v, 0x11a7 + s % 28]
  else none

def hangulPair? (a b : Nat) : Option Nat :=
  if 0x1100 ≤ a ∧ a < 0x1113 ∧ 0x1161 ≤ b ∧ b < 0x1176 then
    some (0xac00 + ((a - 0x1100) * 21 + (b - 0x1161)) * 28)
  else if 0xac00 ≤ a ∧ a ≤ 0xd7a3 ∧ (a - 0xac00) % 28 = 0 ∧ 0x11a7 < b ∧ b < 0x11c3 then
    some (a + (b - 0x11a7))
  else none

/-! ## the three steps -/

def codeParts (n : Nat) : List Nat :=
  if n < 0x80 then [n]
  else match hangulParts? n with
    | some ps => ps
    | none => (CodeEntry.lookup partsTable n).getD [n]

def markClass (n : Nat) : Nat :=
  if n < 0x300 then 0
  else match markClasses.find? fun e => e.lo ≤ n && n ≤ e.hi with
    | some e => e.target.headD 0
    | none => 0

/-- puts a mark behind the marks of its class or a lower one -/
def insertMark (m : Nat) : List Nat → List Nat
  | [] => [m]
  | x :: xs =>
    if markClass x ≤ markClass m then x :: insertMark m xs else m :: x :: xs

/-- orders each run of marks by class; the first argument collects the run -/
def orderMarks : List Nat → List Nat → List Nat
  | run, [] => run
  | run, n :: ns =>
    if markClass n = 0 then run ++ n :: orderMarks [] ns else orderMarks (insertMark n run) ns

/-- the character composed of a composed or plain one and a part -/
def pair? (a b : Nat) : Option Nat :=
  match hangulPair? a b with
  | some c => some c
  | none =>
    let parts := codeParts a ++ [b]
    (composedEntries.find? fun e => e.target = parts).map (·.lo)

/-- composes what follows a base character: `kept` are the marks that stayed, last one first -/
def composeFrom (base : Nat) (kept : List Nat) : List Nat → List Nat
  | [] => base :: kept.reverse
  | n :: ns =>
    let blocked := match kept with
      | [] => false
      | k :: _ => markClass k = 0 || markClass n ≤ markClass k
    match if blocked then none else pair? base n with
    | some c => composeFrom c kept ns
    | none =>
      if markClass n = 0 then base :: kept.reverse ++ composeFrom n [] ns
      else composeFrom base (n :: kept) ns

def composeCodes : List Nat → List Nat
  | [] => []
  | n :: ns => if markClass n = 0 then composeFrom n [] ns else n :: composeCodes ns

def compatible (cs : List Char) : List Char :=
  if cs.all (·.toNat < 0x80) then cs
  else (composeCodes (orderMarks [] (cs.flatMap fun c => codeParts c.toNat))).map Char.ofNat

end CommandLine.Text
