/-!
# Names of characters from 2000 to 2FFF

The names in order of the code points, in the written form of `CharName`.
-/

namespace CommandLine.Text

def namesFrom2000 : List String :=
  [ "Ľ0ĢoGu3@EMaoGvJ@EM@|REE-P*-EM@FOURƎ)SIXƛ*IGURE@pS@|&@HAIR@l4WID|cNON-JO&*cƇ%azSkR@z1av3@ơ#BREAK&Gaǒ%q5@oGȑ%mGm"
  , "HakMk9nJb!l1ĭm5u8kRĦkGĕm5ņ-9ĖHIGH-REV*SED-9ĕkHkMƨ'kMƨ7DAGG*@kMav7@wHakJkOLEAD*ĕkIamGELLIPSISaHYPH>ģvKanJqH@P)A"
  , "GRAPHazSEMBEDD&Gɧ%POP DIRECī< FORM;T&GazSOV*RIDEƫ%N)ROW NOʓ%vJaP* MILLEkEb!mEp9aPRIME@kM@oX@mXb!kMbƏ$C)ETam5sY"
  , "pOʨ#ĞrT@REF*>Cƻ%q7a&T*ROB$GaOV*L&EaUND*TIEatWTIEǍ% &S*ɰ&AST*ISMav3v7asBuOĭmDnO(QUILLĤkGakMqNkR@qNq7@q7qNaTIļI$"
  , "kEȡ#XPILCROWkEĮk2v7b!kWal1rUamXu9aCLOSEkZakIǴ&KS <IGNEDyHazXsRkEaSWŃq5anHȺ(Fņ*pSkRakLkOpSayNʴ%kNƏ#ĕkQĕkIƑ$kRaq"
  , "Qp5aTRICOLONak9kNlXamZy1vJat8傸&FUNCī APPLICģa&VISIBLEkXbqHbk3Ľ066=zSISOL;E@z1@FIRST STRķ@倔.a&HIBIT SYMMEȊ# SWA"
  , "PP&GĕACTIV;EƦ'tNoL.Aƞ%3ƞ(Nģ<lS.APESĕNOM&<avVl4bnPĴIb=2074=kNbkQbkYbk4bk0bk5bk3kEbsRbpXkEbkHq8b!kGƷ&NayMl4bkJbk"
  , "IbkLbƿGĽ090=nPyMĴAeEeOeXeS~WAeHeKeLeMeNePeSeTĽ0A0=EURO-CURR>CYkE@qR@CRUZEIRO@FR>~ FR$C@LIRA@MILL@NAƏ%PESETA@RU"
  , "PEE@WON@NEW .EQEL@Dķ@ǲ#@KIP@TUGRIK@DRA~MA@G*M$ P>NYǚ%O@GU)$I@AUSTR<@HRYVNIA@CEDI@LIVRE TOURNOIS@SPESMILO@T>GE@"
  , "&DI$ Ȩ'łKI. ɗ&NORDICkR@M$;@RUBLE@L)I@BITCO&@SOMĽ0D0=oTkHo2kKĖkGbmPk9nJwNĞn6btEkPƚ$uUĖkHƤ&MwNƔ'tEbkLlXƿ%Nb>CLOS"
  , "&Gl8cmDcq?l8yObkHkGǊ#Ơ) SCRE>cKEYCAPcUPW)DqUoUbrKrLwNb!kMk9lKb$NUITYlGboXUND*DOTbWIDE BRIDGEkKbk2kPƳ$mPkMrLbkW"
  , "o2(n4lWĸk2ǿ#PkVȽ%rUkKĽ1ĢACCOUNTlEaADDRESSEDk1pASUBJECTavUkDCaDEGREE CELSIUSanWnJlGaC)ElEaCADA UNAaEUL* ŁST$TaS"
  , "CRUPLEƽ'FAHR>HEITarXkCGbkDHĕzUĕvUaPL$CKƾ']lHkIoNƫ#DIƧ$Ƌ$Lb!kCaL BmHlGȞ$NaNUM*OkEau0RECORDıCOPYRIGHTƸ$Pĕv^Qƍ$R"
  , "Ƿ+RESCRIPī TAKEaRESPONSEaS*VICEkRawJkE@TRADƏ#V*SICLEǿ$ZaOUNCEkE@OHMĕnHazƙ$mCsSĴpYaKELV&kE@$GSTROMȋ$Bazˡ$ESTIM;"
  , "EDlGʞ$Eb!kDcFĕmCƪ$MħOalPlG@BET@tQ@D<ETayFSOURCEasCkDQaFACSIMILEkȥ$CoNcr1Ǔ%oNbN-)Y SUMMģamCvXkDGdLĦmXƏ&YavUv8kD"
  , "Dc!kCd,[JaPROP*TYnJamCyLaP*kEaAKTIESELSKABamCkCFalGpGSAM)IT$ Ȝ&VULG)sBkJSEV>|dN&|dT>|dwCckIxBckJFIF|ckIƈ$Sc!kL"
  , "c!kNckJSIX|ckQƈ$SckJsDckLv1c!kQc!k4asBNUM*;ORkJ@ROM$w5ck?kLcǆ#QckYck4ck0ck5cm%vGcuZcpQckJnUǋ%kJp9akCƽ&kJdk[kLd"
  , "kNdkQdkYdk4dk0dk5dm,vGduZdpQdƿ#d!kQdƿ$ƽ(p9C DckQp9c!m%mXƪ#anPĴmXCƪ(YL;EoLc!pQE)LYdƳ$Ʈ#ʾ(l4x˦#lSɑ$Ľ190=k2kP@lZ@"
  , "kW@lW@kHkG@kZk7@n3n7b!oQĕoCb!n7aƸ#(lKĦkWak2sGkPĕkW@k2kIHEADEDĦlZƣ$ĦlWƶ&o5ƶ'kPuAmHƦ/Ƿ#kP(BASEǩ'LƳ)(t2Ǝ%ȧ#ǹ#cȌ&l"
  , "Wx8kPalZkPk;IPk2ekWalWƏ,kWǃ$Olƚ'tOk2atEoRSEMICIRCLEkPĦuUan3nȊ#1mPmH@k2ƍ$HlHǅ$1atEmVl8Ʈ'k2匹&Zeǝ#ZƎ%kWek2akWƜ,W"
  , "Ɯ-kPlHǝ#@Ƚ$2lElWǱ&ǭ#bPAIREDyDĕlZ˨&2lWǳ$lHǝ#@kWƍ$2ʦ#Mʓ%Ĥʥ#ĤkWƗ&ǃ.ĕƢ%2˷#ĕɴ#ĖoQĦoCĖn7@k2oX俠)SQUIGGLEƒ$˰&kMǯ$ȕ$DA."
  , "EDǬ1ˁ'俍(UƤ/ǎ$U倘%dpBPEDEST<f(mGmHg!k9cɆ#eƜ)akWƲ%W<L侳(tOɀ$oQaɘ#ǩ$kGȨ$Cl8alW˦&ZƘ#LkWyDȝ$(k9ʶ%Wʻ(2ƙ&Ma/5Ɨ#5Ɨ$k2OP>"
  , "-HEADɪ&kˌ(pG<LaCOMPLEM>TaxXy2a|*E EXISTSbDOESn5ƍ$aEMPTY SETa&CRƲ%NABLAayXlEĕn5$ĕkCazFAS MEMB*ĕǅ%ŁTAIơ%zFapFlEP"
  , "ROOFaN-)Yw6bCOPRODUCTb去)sRkE@M&US-OR-PLUSakOk3axLuOaSETsRarUqP@mM@v7amDROOT@CUBE岳&|叜$ORī<k1a&F&ITYakGpO@@MEASU"
  , "RED@SPH*IC<aDIVIDESaɅ%Ǝ%ayQk1ɱ$auXkFbm8asZatRawL安,ŁTOUR@SURFACE@VOLUME@uUbƢ*2tE˺%FOREaBECAUSEaR;IOȺ*akOsRaEXCE"
  , "SSaGEO娝&ơ*HOMO|ETICamYqPamXmYanHLAZY SaS&EsGaWREA|w6an5mY@sRaASYMPTOTIC<LYnFk1Ħn5ĕzTĖBUTn5ACTU<LYĦNEI|*zTNORĕv"
  , "4Ʈ'v4nFm8aoǷ#<Lǉ#@yIĕȰ(Ǆ$DIF岁&s6aAPPROA~ESp<IMITɝ'ȏ*zTƇ#m8pAIMAGElEaƈ&m8ƛ%aqRpXapXqRamMnSƓ#Ė@COR囵%DS嚉(SaEQUI$G"
  , "UL)k1arQpXar0ǈ$ƅ#BY DEF&Iīa倚' BYaQUESīEDnF倆&@ID>ʽ$Ƒ'SȽ#TLYyI@nEm8nFĦnGĕnElHƌ)˛$ĤnGaMU~nEbnGas6an5yIk1bƐ%˰&n>OR"
  , "ə$ƿ#Ǚ&yIǍ'Ʀ+Ƣ%ǹ#Ƈ#Gm8nEǆ-GbnGƈ#EauVauWauVm8ɒ%3uW@uVǛ&uW僽&PRECED%SUCCEEDaq4lE@q3@n5Aq4c!q3Ɨ$ǋ'4q3Ș) Aq4l>ORcƘ&"
  , "Ə#(ɾ#5q3aMULTISETbw1btRamD俠&b!ORIG&<bƓ$ǟ'ĸƙ(CAPbCUPanVk3bsRbkXbxLuObkOqPb!mMb!rUbpXbq5ap1ƥ'Ơ$akGrP@kH@k7@kZaAS"
  , "S*īaMODELSaTRUEaFORCESaoXk9mHkGłNSTI呢%MƔ$Mʭ(OVEan5Ʒ#Ɠ&ƽ$aNEG;EDƯ'ǅ+uVUND* RELģĕuWaxCxOlE協$Ƌ#Ɛ$ˢ)3Ƙ(ʌ'lE@ʩ$˓%MA"
  , "PaH*MITI$ ŁJUG;E M;RIXa&T*C<;EaXORaN$DaNOR匙$()CboU厥%uXkFcm8bsZbtRaqIqP@kO@rQaxLkXaBOWTIEĭxCFACTOR SEMI廛%w6Ĥ咪%H"
  , "ĕkG劝$pXarZuXm8ckFakMq4bq3ǡ&PIT~FORKanFkF却$nE(kOĕnGatBMU~n%儊&刟%anGƉ%nEĤdnGduVd僃.ʽ$Ĝ僉'n5mD做,c做)ĕƝ+5b/5ƛ'@冿&yIĤnG"
  , "ĤuVĤuWan5侷&哽, 侫%ƞ&Ǯ'Ƥ4ƛ#ak9执'@MIDL&Em壳&GpCĦk7啾$(mPmGlKĲk9mH;pFlEa/9kCyXơ&kOkKdwSĤkCƓ&uFdkIm宯$KESazFǇ'cǇ0Ɲ$wSĦk"
  , "CaZxPBAG嗡&.IPaDIAMET*kEaELECTRICkPaHOUSEakZr9@k7aPROJECTIVEaP*SPƌ&WAVYnJĭCEIL&G@kGĭFLOORƍ%pUkGCROPb!kH@oRkGƌ%m"
  , "Xn5kEamDx3a)CaSEGM>TaSECTORawJ崳%*aPOSIīxIaVIEWD;AmDaPLACElE&T*ESTkE@mCn5aW;~Ƀ#RGLASSaoRkHtOb!kG@pUkHƌ%oRl9wLĕp"
  , "UaFROWNaSMILɷ%s6ˠ#B)SaOPī KEYa*ASEk1pAkGaXnSA RECT$GLEq0aKEYBO)DasYpOnOĕrTƲ*HaB>Z>EmMaCYL&DRICITYa<L )OUND-PRO"
  , "FIŇ戾&YaTOT< RUNOUTaDIM>SȌ#僈%aŁIC< TAP*aSLOPEa弴$*BORƌ(S&KaAPL 拺'<lGI-BEAMdSQUI.u3du3nFe圥%eqIeJOTel8dl8勠$Ə#duOmH"
  , "d!yOdu3uOeyOenEenGdk2V$,!kWdu3k2kPeƌ$l8yOdk7rPuFdr0ǈ$Ơ#7C)ETer0Ɯ$Ǚ#lZV$,u3lZkPdkZrPwSdDEL ƴ(Zƴ%DELdkZƵ&WƵ'WkPd"
  , "QUOTEuFd!r0d!q[!Ʀ#!l8dkZ.OE JOTƨ&3dl8rQdu3qRǐ$oJd!ǝ#!rQƺ,7.OEȈ%ĲkHdmYƭ$nGdo4mHȦ#mYdZILD,Ʀ$mYdu9uFˏ#5nFeqNdɱ&mY"
  , "ĲkZdpYdqKdpLdpPȰ$qVd!pYd!Ɣ$an5wDk參'屰&.OULD*EDmVq0aBELLlGak9nJ(lCkOa旘(lG@ŁT&UOUS UND*L&EĕDISƚ)@EMPHASIS@COM兤'ak"
  , "UmD(nWǟ#a>T*lG@<T*N;IVE KEY@HELManVmGmHk$OT~boUk7aBROK>l8k$OR|WESTkPaUNDOlG@ńOSTABLE@HYST*EȆ%OP>-CIRCUIT-OUTPU"
  , "T H-TYPEb!LƉ$@PASSIVE-PULL-DOWNƫ&ƛ/UPƙ'哅% 撊%TlGoLkIaSOFTW)E-儕'lG儤0u3aDECIM<qHKEYlGaPREVI˙#PAGE@NEXTaPR&T挲&lGĕC"
  , "LE)ĭq8mKlLcyPcl0lL@kGƓ#Ƒ'杰&mKtOdyPdl0tO@kGƕ%Ɠ'ĭrZnOǊ#dlCPIEC,ƾ$Ɩ#yPakGƟ5wLyP@mGnJamKkHm8l0Ƭ%sNĞkGƑ$Ha害(oRbpUao"
  , "Rǿ#ĕpUdlHƎ&RADIC<lGpUĭk9q0nJ榏%mGSC$ L&E-1cƇ$3Ƈ%7Ƈ%9aD>TISTRYlGl7k9kFoRkGf!pUe(l8Ĳk7kFmGd/4kZdk9(oUƕ1FsGd!ƕ%(Ɨ%"
  , "ƣ%兘%Ǚ&HǙ$amDFOOTaREłNlG@EJECT儴$yPa媡'pKbmPlHn6bn6lHmPƎ$kI.ORTSbƉ'ƚ#dJO&EDbTRISEMEbTETRAƊ$P>TƊ$avLG叇$aFUSEaoRq8@"
  , "˓$rZ˓&@oRwMuPĦˌ#UTRAPEZIUM吞)(l8aSTRAIGHTNESSaFLAƉ%AC僆'喭(<sZ傦' EXPON>TlGĮrTkMoUĖsYĖu6ĖwEbƖ%(k9mHb/5Ɯ$rTƒ$Ma<)M "
  , "CLOCKaSTOPW;~aTIM*Ɩ%啖)(FņıS$DĮmZsYo^!r]!u6c!wEa夭%ĮmDpGnYbl8pG嗘%aPOW*lGb!ON-OFFb!pBb!SLEEP@OBS*V* EYE掷$NULLcST)"
  , "TlEHEAD&GeTEXTĜpFez3c>QUIRYcACKNOWLEDG%BELLcBACKSPAC%mGyGcnJFEEDck9yGcoLƌ$C)RIAGE 倳%c.IFT OUTdnScD;A L&K ESCAP"
  , "%DEVICEw4kJekIekLekNctGǷ+SYN~ļOUS IDL%pFlEz3sPcC$CELƐ$mZcSUBSTITUT%ǜ&FILEqHc!GROUPc!ʯ%c!UNI]vJcDELETEaBL$KlGam"
  , "Vq0ʠ%EWL&EƠ&oLkIĜǡ)Ľ440=OCRlLb~AIRbFORKb!nHbBELT BUCKLEbBOW TIEbBR$~ B$K 崦%FICģbAM枛%wDbq5bCUSTOM* 枳&m7bkMyOĽ46"
  , "0=nVlSkJ擦7bm7擨(xQcxRcw7cwPcxKcw2cxScoKaz2ǂ_ǀ#pRnYĖkIĖkLĖkNĖkQĖkƙ$4Ėk0Ėk5ĕǖ#ĖvGĖuZĖxQĖxRĖw7ĖwPĖxKĖw2ĖxSĖȬ$nPĴAe"
  , "BeCeDeEeFeGeHeIeJ欥(OePeQeReSeTeUeVeWeXeYeZanVnPkDƼTcǴVblSl4atGnVm7昮%xQdxRdw7dwPdxKdw2dxSdoKakMnVlS晰9cʱ#Ǌ$Ǔ$q0D"
  , "RAW&GSl7mGc!k8cl7k9Ɗ'oXq5Ƙ#3Ǝ(k9Ǝ'yNƜ+yNƜ+k7kFkGck7lƉ$k8dk8Ɖ#l7ck8Ɲ%Ʀ'HƦ'HƦ'HƦ)HƦ#Zǌ%Zǌ4Zǌ'Zǌ%Zǌ4Zǌ'9ǌ%9ǌ'ckZ"
  , "ǎ%ȅ#c!k7Ə&Zc!k9k8Ɉ,ƭ#c!ȋ(ǜ#Ǔ%ǜ'Hǜ'Hǜ)Hǜ-Hǜ(ɾ,ǜ-Hǜ)Hʪ&mGckHȭ+2kGǄ,mʜ'mʜ$Gǉ'k8ĜkHȴ%˚&mGĜʶ#ǔ)Zǔ.Zǔ:Zǔ0Zǔ)9ǔ)9ǔ(ʜ*"
  , "m˸*7mGƣ$ʜ&ZĜʚ%c!kH依(ǆ%ː'Ɯ$侪)Ɯ%7ː-ZmGȤ$ː&7c!Ⱦ(9ȼ.9ȼ$!l7kMq5僄(M僒)kMmGdə#7m5ǵ$MdkMƉ#m5ckMkǊ$Ɲ'HƝ'HƝ&ˏ&ƺ3僜(ƺ4Zʵ&ƺ3"
  , "僊(ƺ.Ɲ)Hȑ&mƺ'mȮ)mǴ#Ɲ4ZƝ%9Ɲ3ʩ&l7)Cɴ%gkHeˤ#gkGdpCmKkGk1l0kHfkHƉ$Gep5dkHdkZdkGd僔$Ǝ*˥#HkFk8kGdɭ$8Ƣ&kFl7Ɣ$Ɖ$7amKl9sP"
  , "@l0殳$!qAb!kLv1b!l9b!kQv1Ɠ%Bb!k4v1@pR@kHk4Ɯ,Qƶ&ǂ)kJq#!sD@kGl9al7.ADE@mZ@D)KamKǼ#sP奓%QUADR$Tl0˩#GbmKə#FƏ#Ɔ$Gf!e"
  , "ʑ#Ɣ%ikGc!ơ&gƢ%ĮmD@k^(wOCORN*ScyJkSkCmDamD(mGFILLc!k9c!OR|OGON< CROS.;~c!mK˰'d!侄'c!pCƧ)aǖ%ĕkUĮ弔(@kU@kSk9Ɲ'P)<LE"
  , "LOGĳ@ƕ$u6oUĕƭ&u6kCĦƎ&rTĕƌ(ƚ'ƌ#PO&T*ǚ'wEǅ+wEǅ+sYĕƌ(ǅ)sYǅ.qI@kUʪ&qIaFI.EYEax3akUl8@qQal8(k9ʿ#aBULLSEYEĮl8ƙ%Hl9kS"
  , "ĜkGĜl0ĜmKʽ$俙'Ĝ<L BUT˞#aƱ%l8俾%yYv7bǫ%3mKl9Ĥl0aƩ#ƿ' 崣$L) )CbƵ#Ƥ$ĞkHaƳ#l8aǹ#Įl0kGo^!kHbȇ#c憠%U楬$ȫ/Ǥ#pCc/3l0ƥ$Ƣ$9BI"
  , "SECT&GnJbu6oU(kOaƉ#ƿ'd搑%6l8ƴ&Ȭ+dȉ#e!kGdǡ#b!l8Ƣ%ƚ.ɢ$oU憥&偦$Ǐ#Z偗%S@Ǝ#侺%Saɘ%ĮSUNk)AYSaCLOUDaUMBRELLAaSNOWM$aCOMETĮ"
  , "rQ@kUaL孕$&GaT癩%STORMaSUNaASC>DıNODE@DEƒ'aŁJ帙&aOP弬)SwJǘ%B<LOTq0c(wDdXaS<TIREȑ(k)A& DROPSaHOT BEV*AGEakU.OGI 嶻$"
  , "ɭ%.AMROCKamXsCFLOR<rBv7ĮkHqUnAĖ斎%U珴%ZƑ$Ėk7aSKULLkF冞$BONESaCAUīkE@RADIOA掽$@BIOHAZ)DaCADUCEUSa$KHaOR|ODOXp5aq6qK"
  , "ap5lELORRA&%J*US<EMarQkFzGaF)SIlGaADI .AKTIaHAMM*kFSICKŇPEACElGaY&vOaTRIGĳpGHEAV>cLAK%FIR%侓&cW&DcvMcx]vLaWHEEL"
  , "lEDH)MAakU掫$&GmQb!tJʳ%kU個)瞣$qAuBĕLASTaM*CURYaFEMA牺%LaƊ&JUPIT*aSAłNaUR$USaNEPTUNEaPLUTOa)IESaTAURUSaGEM&IaC$C*a"
  , "LEOaVIRGOaLIBRAaSCORPIUSaSAGITT)ƌ#CAPRICORNaAQUƓ%PISCEȶ#r2sWctScvQcvHcrYcvRĮƖ2bSPADE SUIT@kUrBb!qI@kSCLUB@kUƤ$"
  , "@kSƟ*UƟ#側$SPR&GSaq$OTE@sDaBEAMEDsDƒ#Sb!y8aMUSIC FL;kEb!NAł<b!.)Pan7SYRIACp5a濆$UNIV*S< RECYCL&GlGaƌ*pGTYPE-1 PL"
  , "ASTICSd!ƒ$2Ɖ'3Ɖ'4Ɖ'5Ɖ'6Ɖ'7dG>*IC M;*I<SĮǽ4@Ǝ%ĪPAP*ĕP)TI<LY-ƛ'aP*M$>Tƥ%kE偫%~AIRlGaDIE FACE-1+5叽$(kOkGdkIlXĮƐ$U"
  , "ƒ&kUlXazHpGv:Y&aD僣&GRE;*v:LESS* Y&dv:Ƙ$Ə%akUFLAG@kS儹(PICKa$~ORawTSWORDSaSTAFFlEAESCULA偧%C<ESa<EMBIC笲&aGE)Ʈ'H*M"
  , "ESa;OMlGaFLEUR-DE-LISazIkUrQakLL&ES ŁV*G&Gɓ#HaW)N&GkE@mNVOLTAGE@DOUBLĪ兎%b!M<Eĕ&T*LOCKƜ(kF@Ɖ%ƭ((lKd!kFƘ+@k9M<E"
  , "牓&mGamZ˳#b!kSb!kCkUaM徤&lG@DIVORCE@UNƙ$ĪP)TN棘&COFF&aFUN*< URNaNEUT*aC*ESaP<LASaJUNOaVESTAa~IļĮuBLILI|aSEXTIŇSEM"
  , "Iƌ'QU&CUNXaSESQUI哩$;EaSOCC*vSaBASEB<Lap1KEYakUDRAUGHTSr8csWĮƐ,咩' WI|OUT Ɛ#aSUN BEH&D 哘%RA&Įƭ&咼'Ɲ%kFƞ$mC告,b北&qI"
  , "nSmDapTL$ESaDISABLĪC)aOPHIU~USa偰$C) SLID&GaHELMET(kUp5anVƿ'~A&Sao0>TRYasAONE-WAYkHWAY TRAFFI喤%TWOƙ#ĤkUĮkHL$E M"
  , "*GE坾%DRIVE SL縹%8kUwEoUĭp3ǜ%p1啄'yZpCnSkUl8nSkSmDĮTRUCKaRE澬%EDkHƵ$-1cƈ%2aASTļOM撸&G叚&k8l8(lKkFkIlXkKaP>TAGĳ@禖$-H$"
  , "DĪ&T*LACEDĕLEFƙ'@nHĮp5pB.IELDa.&TO .R&Ea~UR~aCASTŇHISTO縈$ITEaGE)俫(HUBb(H$DLESaMAPȨ#LȄ#歿%xT嘿(pB摛'OU玍%FLAGn.OŇF*"
  , "RYaSAILBO;amDkN姲&aSKI*aICE SK;EauJ(vSaT>TayRB$KlG@HEADSTONE GRAVEY)DaFUEL PUMPaCUPpB˹#劫&(mGlCkS˽#PEĮSAFETY SCI"
  , "SSORS@mKBL咋'@l0Ə(Ubk8wD窻$LOCA嚚&TAPE 倒$aAIRPL$EaySaq9FISTbrI@VICTORY@WRIT&G堆$P>CIL@@mK墸$NIBǸ%ǧ#ĕk8aw1XƉ$@垩%Ǝ%zI"
  , "sSp5ƚ'mVnWĦk8@nPĕyTkUĕzI@M<TESEarQlEDAVIDakNzZrUbǒ&ON-SPOKEDǂ'kNCLUBƕ&ĮkNrVrQ僻%SP)KLESaSTRESS厈%ĕnVȇ&kS@kSnWkU@"
  , "zIkSǗ'xU@ș$k8rUȶ&@k0Ǫ%brVkSrQcƪ&kYƐ#ĕk0rV肦$L&E)a/5k8ĕuZrVawPrVrU@zZĕǑ#ʓ%kYPET<LEDkSkFkUFLORETTE@kS寝(0ƥ'ȧ$nVɀ$0"
  , "ɭ$k8zZxUrU勥$FLAKE@TIGHT TRIFOLIAǎ%8~EVļʚ&Ɣ%a˙-rǮ%zZ篫$LL*Ĥk8ap5kRayT嬳$tGp1Ɛ#倛$DROP-.ADOWEDkUmDĤmKĕƝ#yTƎ$ĮqNkRv"
  , "尒%Ėq7ĮqIsRkUXak8q7kRlGal7k9mHĕmZʛ$bm5mCo4u8ƻ#c/4ĸkMmƊ&l1m5cƑ#@xDSTEM 葕(kE@Ǘ%ĞrBbkSrBasCk8kS姣$姮'a姹,mZkHq8vC姨'FL"
  , ";T>EDkHcƓ$!湵%萤'k8萶)4rTƠ.慌$HwMuPb燘&ǡ#rZ屍%D&GB;揊%曢*ekQekYek4ek0ek5d攡$nVvXƦAtGƨ'fkIfkLfkNfkQfkYfk4fk0fk5eƨ#ak8WID"
  , "E磴'WkP芍%!sRb!xLboCoQkPb!kWb!n3oQ@DRAFT&GvKk傺%潍%TIPPEDĕq2儾&3稷%Ĥk8娷%蜤%D TOP-卺$Ƿ#r9ĖBOTTOMƕ'Ʈ%k8kSxDlWkFȜ#d籖%2SQU"
  , ";冢&ŁCAVE-PO&Ʒ%呔%.ɒ$UĦLEFƐ'ĦBACK-TILTEDyTĤFļTƑ&ǒ$l0ǂ$僉(b僅%4NOT~EDl0arZt2aƏ&mKƮ-kUȪ#ĦnVɳ$WHITE-FEA|*ED@BLACKƒ)ˡ#"
  , "˟+ː$Ƥ0c!kWcƢ%@TE)兮$B)BED來&Ɩ(.$Kʍ$WEDGE-TAIL匩(竦%OUTL&EDakMɏ$kL热(<pOakUoUyJkCƈ#aP*P>DICUL)amV瑺$ĭS-.APĪBAG DE碏$*"
  , "沨&8(kOuIarKrL瑌%&Gq4aq3Ǝ(rLak9mH(mGlKay1uYpCamPxLay1yZpCap1畈&坘$(C>TREDkO@kFk筏%OP>&GlZ劅$tO(kOĦ快&OUT* JO&a巅&pRam6"
  , "kZrPb!k7ĭ排%癜',rPb瘎(mPkGr獌&ƴ#(l8kKax3熺$ĪBYmGRUŇkU傌'Sƙ#q[(k2TICKe俟&mD(k2d!kWay1kHkUmDnOĞ玡&pO幗(HkMƘ)kU刺(bkH劋(q8b"
  , "ɒ$lZyN絵%W@tEGAPPEDl8ĦuU紣&nVk3Ɍ#2凌)kHǟ%2kMĖkWĖƓ$翄'ĞkWĞơ%4kWc縤'kPaBRAILLE P;T*N BL$KcDOTS-1Ƈ%2Ǝ&ƈ&3Ə&3ƞ&Ɛ'Ɖ'4Ɛ&4"
  , "Ơ&Ɛ'Ɖ'34ǁ'Ƣ'ƒ(Ɗ(5Ƒ&5Ƣ&Ɛ'Ɖ'35Ǆ'Ƣ'ƒ(Ɗ(45ȉ'Ƥ'ƒ(Ɗ(34ǉ(Ʀ(Ɣ)Ƌ)6ƒ&6Ƥ&Ɛ'Ɖ'36Ǉ'Ƣ'ƒ(Ɗ(46Ȑ'Ƥ'ƒ(Ɗ(34ǉ(Ʀ(Ɣ)Ƌ)56ʡ'Ʀ'ƒ(Ɗ(35ǌ("
  , "Ʀ(Ɣ)Ƌ)45ș(ƨ(Ɣ)Ƌ)34Ǒ)ƪ)Ɩ*ƌ*7Ɠ&7Ʀ&Ɛ'Ɖ'37Ǌ'Ƣ'ƒ(Ɗ(47ȗ'Ƥ'ƒ(Ɗ(34ǉ(Ʀ(Ɣ)Ƌ)57ʰ'Ʀ'ƒ(Ɗ(35ǌ(Ʀ(Ɣ)Ƌ)45ș(ƨ(Ɣ)Ƌ)34Ǒ)ƪ)Ɩ*ƌ*6Ɣ'6"
  , "ƨ'ƒ(Ɗ(36Ǐ(Ʀ(Ɣ)Ƌ)46Ƞ(ƨ(Ɣ)Ƌ)34Ǒ)ƪ)Ɩ*ƌ*56ˁ(ƪ(Ɣ)Ƌ)35ǔ)ƪ)Ɩ*ƌ*45ȩ)Ƭ)Ɩ*ƌ*34Ǚ*Ʈ*Ƙ+ƍ+8Ɣ&8ƨ&Ɛ'Ɖ'38Ǎ'Ƣ'ƒ(Ɗ(48Ȟ'Ƥ'ƒ(Ɗ(34ǉ("
  , "Ʀ(Ɣ)Ƌ)58ʿ'Ʀ'ƒ(Ɗ(35ǌ(Ʀ(Ɣ)Ƌ)45ș(ƨ(Ɣ)Ƌ)34Ǒ)ƪ)Ɩ*ƌ*6Ɣ'6ƨ'ƒ(Ɗ(36Ǐ(Ʀ(Ɣ)Ƌ)46Ƞ(ƨ(Ɣ)Ƌ)34Ǒ)ƪ)Ɩ*ƌ*56ˁ(ƪ(Ɣ)Ƌ)35ǔ)ƪ)Ɩ*ƌ*45ȩ)"
  , "Ƭ)Ɩ*ƌ*34Ǚ*Ʈ*Ƙ+ƍ+7ƕ'7ƪ'ƒ(Ɗ(37ǒ(Ʀ(Ɣ)Ƌ)47ȧ(ƨ(Ɣ)Ƌ)34Ǒ)ƪ)Ɩ*ƌ*57ː(ƪ(Ɣ)Ƌ)35ǔ)ƪ)Ɩ*ƌ*45ȩ)Ƭ)Ɩ*ƌ*34Ǚ*Ʈ*Ƙ+ƍ+6Ɩ(6Ƭ(Ɣ)Ƌ)36Ǘ)"
  , "ƪ)Ɩ*ƌ*46Ȱ)Ƭ)Ɩ*ƌ*34Ǚ*Ʈ*Ƙ+ƍ+56ˡ)Ʈ)Ɩ*ƌ*35ǜ*Ʈ*Ƙ+ƍ+45ȹ*ư*Ƙ+ƍ+34ǡ+Ʋ+ƚ,Ǝ&akWxH蝬'e/2kMĕ袴'蝥+Ʃ$訤(kƩ$4角(mG衱%ZboX壒)Ʀ#q5詎&2"
  , "袷$墛&xHbkP(qQSTEMalZ袋(l訕'o5Ȕ%fȔ#bxHƔ%fƕ%gȩ$k2)ROW嬥$@kW@kɂ&裠'kSqIȩ$Ħ諤)6kW袝%F崦(oQƍ#n7bn7諥%ĞoQĤoCĞn7裍'Fn3Ʋ%2Ƈ#ƴ#@"
  , "ǆ%ǁ%ĖƩ'auYpCpTyZpC@yZƍ#uYaƮ%pTǊ%ĕn3Ƒ%oCĕƧ%n3ĕƿ%oC@ƣ'谀&n7ǁ'asGkPqU箹%LYkGaƏ#kW|> CURV&GlZflWclƔ,k2fkWa崃&IDE )CuU"
  , "kP@LEFƔ)tEĦoRĦ禟$Ʀ&(sRctEkP(k3宾$讱'UL)uUk孹%ƕ+tE@tEp3嫠&@俪$Kn6k2@k2ƍ&W@n6Ɯ%讒$Ǧ%kVĤƐ&v2Xa醊%v2kC淅%Z傟%ĭn4kZkGn4k7o2c!"
  , "k7ƍ$Z@kZn4kGk7n4狀(Ƒ#@ƶ%Ʃ.ƞ,Ǉ&7ƞ&Ƽ&H豪&ƾ$1停&ĕ豲%ƿ%6lWĕƨ(7Ƥ0HƤ$@ǌ)uAǊZȔ+KƮ*Ƨ)wWǗ*kWƮ*WƮ)WƮ*WƮ)2Ʈ2Zek7ƽ+ǔ-2Ʀ*ȑ+ǌ,mP"
  , "q5e璄$Vĕǀ+Ɩ'lZȑ3ĤȪ,ZakG势%wOt4apXkEkK忛&訮$偩%Ƌ#ĤkWdv4褑%Eț#kƠ%v2nEanGƹ(q4Ɨ&弇$Ʃ'HFI.o5a湤'ZaȪ#蜹&彖)ZxPSPO]TYPEqRĭkU糦%3"
  , "kGƎ$q8ǃ$Ʃ#kH薇$nO火%!kHB&D&GƑ$顸(uFĤƐ);ICKnSoR缘&ƕ+pUa/7kHƘ0oRĭpOnO(kOǎ')CnEnǅ%)CnGĦkMkHbƑ'E@kHkSwMuPƵ%qQF>CEak9x8"
  , "nJ詇(pO忟&kH膣$tK(mDƟ(kGpǹ%pO(SuIanIpOa貓(ƾ*dkZamCpO@mXapɽ$鋥%OBLIQUEƬ(绨$ȁ*(mV)M Eˁ$nSkPqU痭%jƇ$Hjk7Ǝ%7Ǝ%GkFkZj/2ƌ'7"
  , "ƌ$amX踗)Ɗ((wSdkCl8kK珰%Pdƭ$l8輠%@nVk9byQ阉$b憋-l8悇+mHkFoRl9Ɣ)繴$(SUP*IMPOSĪXanV$TI繟$WISE-ROT;EDxLkEakZkPv2l8anVkUv7b"
  , "/譗&ȑ$Ȩ#薍%c/3蜏+p憻$uOĖyZbrUbƪ#bmDakIJO&ĪSQU)ESaoU蝟%cuFaSnSoUƒ$S*IFS ;pUakGoUk犜$aƅ#wWɅ#aƅ#wWƜ#褹&獍,Į襏'Xƙ.U蚗(@kSĭWI"
  , "GGLY F>燿%G鳯,&迦%TE 軸'@TIElHaƑ' 誙&(Ȝ$涠%->DĪ戺)D(躴&Ī捰&逐%ASES ASa.UFFLEw6剠%Fs7yQf(mYkKa账(k1ƙ%aGLEI~ ST)Ka|*MODYNAMI"
  , "CawE琟.ĮqI(k7kPb畊&Ǝ%ĤkSa*ROR-B)R枩%淶%kUqIƊ%渊(aRULE-DELAYED揋$qParL(wSƎ$垴&BIGrLb!rKakMk3@oXasYxD螘$會$T&YaM&Y謠%nVkOq"
  , "Pc!k3c!kXbtRqP(kOek3bmDsZƝ$tR@kI搅$!m8@ƾ$kXaMODULOkISUM荒)(wLayNwȦ#F&ITE P)TwLawL鋐%bA理%(uOa噕%ģ蒇(atE&TEGRģanJƎ*("
  , "睫&UL) PA|衈& POLEĻ嚪+c!n5&CLUD&GpAawLƭ&AvKqP@QU;*NIONȡ&锚'ckXk%sZctRcwScuFaJO&am6kHoUqP吋$~EMA 虈*dPIP&Gd診$ɋ%k3kE("
  , "剞(nNp2d!mYdkOkVƊ%yMk[kSoU鉀$(o4kKƟ%yZlXd!uYǇ$nSkHl9l8偞%V訲$m8p5w6aw1k謴'uFa賅+(pUp3aSMA.Ʃ$ǈ/nVƽ%Ț#Ɵ'M剽$xLkEǹ&oUĦsR"
  , "Ħw1a&T*IORw6柫&|$Dʒ#踊'<ʖ+aAM<GAMģm8錹(asZ(kOatR(sRk%wSĕsZcuXkFƖ$uXm8bkKsZƫ#KtRƕ#KmHƒ&Ƌ%tR@tRwWkF勨%(asZƏ+sZap3tR"
  , "勣'bǤ#akMmD俞$Ɯ,kFʩ'Ȅ#˒%Ğm8akM朇(I&T*砢&Ɩ#dm8@SLOP&Gm6ckF@ȼ#OV*LAPPƨ$bkF(lCSTEMǓ$Ɛ$mGq5Ǝ)kMwSduFd!kM@kCVEE(aǋ#Ɲ%eu"
  , "F˨#DOMA& $TI瀏&īc!R$GEapX倎&V勃)Ɍ%aoX袻%kM尧&oX鍺$倽'YlXa骬$)sRƉ&aCķRU>Tǅ&pX(rUa坯%债%鋰$踠%垩'3kE@k3ƍ#pXƖ&垸%MqRnFakIŁSECUT"
  , "IVEpXSIGNSĦkLɁ&炭$炵'VayI(kNƓ#anE(l8uIa鈶&(qNkRkKĤ鉆&s7ȋ#Ɛ/椏&/7Ɩ0kKƖ5kGanGƓ.HƦ$鐅$XIM;Eĕȇ%FS&GLE-L&En5Ȃ%5ƛ&n5Ʋ*ȹ(Kz"
  , "WnFkKnǧ#ƍ(Eƚ$˾&˕#Ɉ$ƕ+Ʋ&Ɛ(Ƶ(ǆ'ǡ$Ɩ#@Ƙ#s7ǧ%Ɗ#ĦƉ%ǭ&s7邃'enGenEʦ%eȣ$zWƜ*bƪ)fnGaȡ)%nGbkKn俪$k%ƻ$kMNESTEDƞ$cnE(uFanG儔*n"
  , "Eb!wWanEp3BYuQʖ$Ǝ(Ȣ%a/6ǫ#M<L* |$@L)G*Ɩ,鏃(Ɯ%偃&BUMPYkKauVkK侜*Ɲ#ĤuWƙ$侵3ƛ&Ʃ%3Ǝ&ƞ%ƹ$ĕƒ#v4Ǝ&3Ơ%ƺ%kMuVbuWaq4釿&q3ƌ$儌$V"
  , "a鑏((w1Ĥ钅(傍,Ɩ%˒&Ʀ(元&Ɛ+v4ȴ&钥)K钥'mDkHmVq0qP滧%p3銲%q4Ǯ%ĞȜ%Kq3嬏$q4Ǆ$ƌ%3bwWq4c!卌' BYq5毳.W鋹)k;EEoRaTR$SV*S<sZaƚ#&GaNON"
  , "Ƌ'n6kH毼&b!kZ泞-(S塬$oX钳*@钄&Ha釯%騻%MamPq5uAkH釠%lEƧ#Ǣ#7rP(wSbkZrP鈽%KƖ%ĕkMǸ$blKn5˞$mX餳,(mXNEGģuO蹶'8kKekVĦǆ$yQ(鉾$mYqP"
  , "尫&B&)Y锒(dƢ%bqRqPb儎*azWs7n鎾&儮%oXrLƾ.am6ǖ%qP@kMrLakUƐ#ĦN-)Ya恌$UkP鱐&2oCoQƌ'鹮'2kS鰍'lW患&ư0鲰.k鷝'lWelZak2Ə,mD(oR姠&pU"
  , "罆%G罆'HĕqI(kH罤'oRƨ$aqQmD@kSm6肚)tB肚)皗%ON@kUbHEXƍ&ɂ$mGaƺ#l8bmZqI肼'mZx3ƌ'kCq?Ə)mG钎%Eĕ膓/H鲴(kLk2yDĭ涣,浧*k2捗.duAmHc螽$P"
  , "拼*d拨Ab惰$懨/H唱&˦#ĦrK廜*r凞&愬&nGdq3ak2yN鴜&@ư%kK龅$ƴ,Ƙ#弊*kƘ&dǢ%搓%lWq2x8kP@n6s7n3b!谹$L$TEDoC肑$rQ@ˡ#˜'rT侬'ƒ&8侚$OV<(OV<u"
  , "I胷&l8cbnV磖'Ǣ#kP(HOOKEDt4aǬ,ƚ)o5@ƭ'mGĤȕ-rR˃#lW|>熐%7n6ak2q2龋Yq2猪'3lZ擫&3lW@uUq2mVl8ĤtEǦ#齱(4lZ黗'lWĽB76=/4Ǣ%4Ǣ#5oCĸ"
  , "n7ƶ&(kM敢%6lZ懴$懧%mGTAB鉣%2k9ƭ&lHkWɑ(q2齜%ɑ%WƠ&2ɣ$Ɯ(Zƺ$PAIREDyɉ0k2kSnVkUkPȹ.@tEq2kGU牍&凘'kHĜoR道&kHbkGa赱&ƍ%kNtOyDCIR"
  , "CL&Gʝ#WkSkPĽB97=缆' A 辺$ļIC璀52EQUIL;*<r9b瑃&Ɵ'lZĖƯ+Wb窟$ơ(ʖ%Sk2bʬ#煌'lWaʝ%(mPTIPk2gkWalZƓ0k2Ɠ*ʚ#6ƕ0Wƕ%甌'闲(c!lZƐ#Ǝ'"
  , "k2kFlZc/3Ǝ)WƎ$aRIBBONkPk7kHd袧$ƈ%諃&Ɗ$襚&alZkU曤%悄%鞠$靽/坋*kU忞&c!kFkSĖ莟((l7X@nVb!rCĮmD珆&脰%mC卼*mGkSOC凜'bmZu6oUƯ&ĜwEĜs"
  , "YĜrT舳'鑜$oR藒(pUal7kNrVkSCUSPa/5sC@kUƔ#ĤsCamD飠*UNC*TA&TYkEa逃$kR芈%oL輁*噙%Ƙ$aPROS*P&A糶$AEAaHYGIEAaPHOL苏$SSUSakUuBSE"
  , "L>AĮqIpBp5鴜$l7uB)TAaCUPIDOaHADESaZEUSaKļOSaAPOLLONaADMETOSaVULC$USaPOSEIDON蛅&rQ悶%rQ惷,吹(oU)ROW籯$a/5lZ榍'lWa*ISoL"
  , "迧$aSEDNAaRUSSI$ ɕ#OLOG緋%VIG&TIL,NOVIL,QUƐ&BIƒ&S俁&dTREDECIL專'愲'kVaUNITEDlG@SEP);ED胝)降&EDamXkGpOaHELLS~REIB* PAU"
  , "SElGaGLAGOLITICĨAZUdBUKYdVED,Ɯ%[DOBROdYESTUdZHIVET,DZELOdZEMLJ_IZH,!l6d[DJ*V[KAKOdLJUDIJ,MYSLIT,NA.[ONUdPOKOJ["
  , "RITS[SLOVOdTVRIDOdUKUdFRITUdH*UdOTUdoHd.T_TS[~RIV[mRdY*UdY*[Y;[SPID*Yl_pNdkCYUSf(o5dYOdI掏%ƕ$d!BIGĲƕ&dFITɁ$ITSA"
  , "ǧ$PICdTROKUTASTI _L;&;E ɇ'CAUD;E Ȍ%ħʹ8ʹ~ʹ~ʹ~anPĨL(kM闊$kCbƑ&lCmYdP(lKdR(o5įAƐ$!T(pCġH(uDĸkCĖĨKƍ+ZĸǓ&pPdM(lLdmCA"
  , "epPįV(kGlLb!ĨW(Ư$dV(tAġl9HĞkCdT瞛$SSqXdE騨&dmCRʦ$O(l1mMuIğkCkDmCEbyMĴJap0kBkDVɨ&S(SWA.o5ĻZauHĨ<FAĖȧ&VIDƎ*r1ƌ)D<"
  , "ƛ+EIEƍ)SOUƍ)Z;ƨ*H;Ʃ*|E|Ɛ*IAUǕ+KAPƎ*LAULƏ*MIƌ)NIƵ*Sƍ*OƋ)oNƌ)ROȭ*IMǖ*tCƌ)UƘ*FǢ+Hƍ*Pǯ,ɹ+DI<ECT-PlPĞȆ'ZuHpV倈)zRʺ$3"
  , "ƴ/ ɼ#Ƙ3NIƖ%!ƿ%Ǜ-OOUǜ)SAMPȝ*wT.Eƾ(Ʋ'ĸǀ*ESƑ*AKHMIMIC KHEIȌ3HORǐ>lAĸƠ(L堀&ȴ-HEIƵ-H;Ƒ-G$GIAƔ-DJƑ..IMǮ,oZNUBI$Ƨ%ƒ+ N"
  , "GIƖ3YƖ3WA˓&lGKA?MI R:!oNcSTAUROSctCR:!KH?ȅ$ SIMAġzRSʻ,zRɋ%ƒ%oTNIkKcSPIRITUS ASP*dL>ISġBOHAIR侀,=2CF9=Ȝ'pRnYd審%q"
  , "NkRĲ&Ə%dV*SE 幮$*bsBkJl9bư#bMORPH嗻'Ƣ'aGEORGI$Ĵ$dB$dG$dDONdoGdV&dZ>dT$dnSdK$dLASdr8dN)dpBdP)dZH)dRA,S$dT)dUNdPH)"
  , "dKH)dGH$dQ)dp6d~&dC$dJILdCILd~)dX$dJH$dHA,oWdHI,W,H)dHO,=2D27=YNƉ$D=A>ĽD30=TIF&AGHkBlNcYABƄ#HcYAGƄ#HHcB*B* ACA"
  , "DEMY YAJc!cYADƄ#Hƅ#Ɗ$Ƌ#EYcYAFcYAKc!TU)EGƍ#HƦ#Hc!ǋ-Ƥ+ƣ$Aƭ$Ɨ+Qƍ*?YAZHc!AHAGG)ƨ*<cYAMcY$cƓ% YAGNdv:YAPcpNcY)cY)R"
  , "ɓ#ǡ*!AYEƕ#SƄ#ƅ$Ȉ#]Y;Ɖ#CƎ$]YAVcYAWcYAYȅ#c!TAWELLEMETƑ#ZcY%YOb=2D6F=p0kBLABI<IZģkRb!qHƟ#7F=rFJO&*aE|IOPICs2LO#MO"
  , "#RO#SO#.O#BO#TO#CO#NO#NYO#rMO#ZO#DO#DDO#JO#|O#~O#Pƅ$O#GGWƅ$Iƅ#EEƆ#%=2DA0=oMcSS^SS?SSA#SSE%SS%SSOƣ$8=CC#CC^CC?C"
  , "CA#CCE%CC%CCƤ$B0=ZZ#ZZ^ZZ?ZZA#ZZE%ZZ%ZZƤ%8=C~#C~^C~?C~A#C~E%C~%C~ƫ$C0=QY#QY^QY?QYA#QYE%QY%QYƤ%8=KY#KY^KY?KYA#K"
  , "YE%KY%KƤ%D0=XY#XY^XY?XYA#XYE%XY%XƤ&8=GY#GY^GY?GYA#GYE%GY%GYOĽDE0=oTuEkBB,V,GH,D,ZH,Z,lBdELdEMdoGdOdoHd*dESdT,l"
  , "_TS,sXdmRd.~A坕%ES-T,_IE堕%dńO蕽$ UKdY;dpNdwK_qD垙+wK濑$鴯'ī M)K*ĜqQĭƛ+nO涫)q嫵&q9&T*POLAƾ*bƾ#@qQTR$S鈻)HƐ(Ǒ+q9mDĭq9OMI"
  , "SSƙ$Ǟ%EDITORI< COļISa處(OS@FOR荤%mXaHYPODIASTOŇqQOBELOSalW$CORA@lZaqQrTpOakM灰&v3anH&T*ROB$GaP<M BR$~av3(oJamY(mM"
  , "kKĭl1PAǼ#RASEȣ'mY椻&kVĭ荋%QUILL煓%oRkHl9nObʺ&p銾%璌&xNU爼(M爼'kIlXlHkJkOpS@Ɖ#lHƕ#@p1kNkOakQkOkR@mXqNak9mYamMvKat8qHlC"
  , "kOamCo4aq9kObo4amCu9aDAGG*(kHGU)Dc!Ƚ#CƗ%嶽$s誔$WO-EMq5@徧%EMaSTE偍&ICpRnYak9kYlXa濅%k9nJaCAPITULUMakMv3amXo4akMņ-RE"
  , "V*SED-9u8kRaq5(kHUPłNakMSUSP>S勃$anHl1KAVYK_(Ɖ%kKaƔ&#(kOƳ#TACKEDɠ#QrLaoXɃ&MEDIEV<o4倥)USkR@PUNCTUS ELEV;USaCORNI"
  , ". 喅,ap5P;TY(kG鑊%)d!kHaTIļI$kEkDETǪ(q7卸%N玼&迈&kG@ƒ'暥%Gˡ$kHq8˸$@pUƐ#Ǝ%傍(ĽEĹCJK RADIC< REPEA]CLIFFcSEŁD麎'cuJcq0cTA"
  , "BL%KNIFEƚ#?DIV&ģcSE<ckCƘ%LAME黊*cSNAK%|READcSNOUTƨ%rBƈ&?RAPc=2E9B=~OK%SUNcuBcDEA|cMO|*cCIVILI$cvMƸ$铖%PAWƎ%SIMPL"
  , "IFIEDl9TREE TRUNKcCOWcDOGcJAD%BOLTlECLO|cEYE坱%Ȏ&BAMBO:SILKc!tVcNETɆ+ME.c.EEPcĳcEW%oZcBRU.ǁ%MEA]MORT)cGRASSˀ(TI"
  , "G*cǷ$EScn7ư%tVSEEȷ*r:!Ɩ#PEE~duPcFOO]tVC)Tƨ* W<KcW<Kǈ%CITYctVGOLDcmPǜ'mPdG;%MOUNDƕ%RA&cBLU%tVT$NĪLEA|*dLEAFdW&D"
  , "dFLYcE;ȼ(tVEA]t4ctVHORS%BON%GHOS]tVFI.dBIRDdS<ȥ-HE;dYELņƩ#ROGcz9EV>˞%z9TOO|ƍ'DRAGOƛ&łTL%!z9Ƒ$ĽFĢK$GXI傱'kJcnJck"
  , ":uO傯&clLck?LIDcr8cLEGSc>T*ck0ck7q0cCOV*cICE僋&mVq0僐$%POW*cWRAPcSPOONckGƞ$HIDı>CLOSUR%mE僷/儳&PRIV;%AGA&cr3cƴ)vLcS"
  , "~OL)cGOdSņˤ#V>ĺBIGcWOM$c~ILDcROOFc&~ckCcLAM%CORPS%SPROU]x]RIV*cWORKcONESELFcłB$cDRYcn6兪&qQȚ%mPSTRID%kIH$DSc.OO"
  , "]BOW再$]BRISTL%STEPcrBcH<B*DcDOORcr?BR$~cʝ#rXcDIPP*cAX%mDcn5冬$SAYcuBcTRE%LACKcnY冽&WEAPONcDOn5cCOMP)%FĥCL$ǲ#AMcv"
  , "M凋$Ɠ#WcFA|*ckMXc凈,SLIC%F$G凓(PROFOUND凜%MELONcTIL%SWEE]LIF%US%FIELD凼,SICKNESScqQT>]k^SK&cuS列&E)ckPcSTON刦&]TRə#GR"
  , "A&cCAV%ST$D券'RICE刽%J)cNET刬&FEɑ%oZckFcPņcE)券%刳&&IST*c俊$)RIVE剈'TķU%鬕$%BO;Ȕ#PPIʇ$LO剪&剢&&SEC]BLOODcW<K傹)剾*cSE%r:剨%"
  , "cV<LEYcBE$cPIGcBADG*cuPcREDcRUNcF倯%DYcC)]BITT*Ȣ#N&GǨ$劄%W&%DIST&GUI.cVILLAG%力&c劑)cSLAV%n6貮% BIRD加*WRķcmQcLʾ&!励%"
  , "cLEEKcu0ƙ#F髊%FLYc劣&FRAGR$]努*T<LcHAIRcFIGH]SACRIFICI< W&%CAULDļ勔&FI.cȏ$S<]DE*cWHEA]HEMPc勑&MILLE]kScEMBROID*Yc勤$"
  , "TRIPODcDRUMcRA]NOS%EV>c勰%勩%勤'FLUTEĽFF0=tFDESCRIPītWkHk1kGdkKk1kVdƎ#lCkFƒ$Ƌ&VdpRSURRˑ#dƉ'uAkKfkVfkHf!mKgkGfl0kH"
  , "d柃%ID" ]

end CommandLine.Text
