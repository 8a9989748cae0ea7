/-!
# Names of characters from 3000 to FFFF

The names in order of the code points, in the written form of `CharName`.
-/

namespace CommandLine.Text

def namesFrom3000 : List String :=
  [ "a=30ĢtFvJbo4bpRnYaDITTOkRayR&DUSTRI< ST$D)DlGatFyKkRb!CLOS&Gbm7l4ĭpOnOĕkGĕkHkMĦkG@kHtƘ+UƘ)kSy6Ǝ%POST<kR@GETAĭw"
  , "MuPnOƬ*Uy6Ǝ+Ơ#ĤƐ(mDƞ%sGq5amXkMPRIMEu8kRĤĤl1ǥ(mQaH$GZHOUw5kJck?kLckNckQckYck4ck0ck5atFLEVELoYkRĖuYĖDEP)T&GĖ>T*&"
  , "GĕwUm5kOĞkMaWAVYq5ak9K$A REPE;kRd!(wVu0dkRmKl9ĻƐ&!kRl0anVʄ(tFTELEGRAPHnJFEEDqHlGȳ*m%oKcrHak9侌%@MASU@P)T <T*Nģa"
  , "tFV)IģxIbl9FILLvJa=3041=zJkBkC#!ckCIƇ%UƇ%EƇ%:!clBclYcK?G?K^G^K%G%K:G:l]n1cS?Z?S^Z^S%Z%S:Z:lRclQcT?D?kCT^!cD^T%"
  , "D%k1cD:lJcN?N^N%o0cl#l3clDcH?B?oNcH^B^P^oWcB%oHcH:B:P:l:M?o1cM%M:kClNȹ%pƈ&Yɂ%FcR?R^R%R:kCm1c!cW?W%W:NcVUƽ#BdKE"
  , "ʜ#99=oTzPwVu0kRĜSEMI-VOICEDĕƙ#bƕ,@zJyKĖwVbrNYORIazPkMv3avZˤsˤ~ˤ~%nMcV?V%VOblCkOazPPROLķED˴#@vZˑ)KOTOa=3105=BOP"
  , "OMOFOkBBcPcMcFcDc]NcLcGcKcHcJcQcXcZHc~c.cRcZcCcSc#:%EHcm?E?m]O^$coGc$Gc>Gc*c?^I^VcNGcGNcIHcO(kOkKcNNȀ#31=wUkBy"
  , "#SS$GKIYEOKcƇ%-SIOScNIEUNƆ%-CIEUCƌ&HIEUHcyBƹ%TIKEU]RIEULcz8Ɖ%-MIEUMƌ&PIEUPƌ%Ǚ$Ƌ&Tǈ#|ƥ'HƦ#Ǝ&ǣ&ǅ%ƿ$Ǭ%Ƌ$Ƒ%Ǌ%ƅ#ƛ%"
  , "Ɗ$IEŃcȬ$Ɩ%Ƌ%xZcx0cx1cx2cǚ%#A%lNcYA%E:%YE:Y%:m1cWA%p?Y:^WE:W%W?pNcE^Y?IbyCğǠ$ʣ+ʉ%ƍ%ˁ*-P$ɶ*ˡ%ʈ*Ƹ&ʬ+ƞ*ƾ.YEOR&ʞ*˝%"
  , "ƌ%Ʒ$Ɨ%Ʒ(KAPYEOUNˋ*ȃ&ƍ%Ǿ&˔*Ɵ&ƒ*Ƥ-˓$ƽ%促'Ǧ(ȍ$Ǝ(侳*Ǚ*ƌ%ʹ%Ǟ*ƌ%Ʈ)Ǩ'$俤)俟%YESƉ$Ɖ(ɸ$Ǝ(ɻ0做&ǃ%ʻ%ˇ+YO-YAƆ%EƇ#?YU˨#Ƈ%Ɔ#?)AEA"
  , "Ɔ%Ea=3190=tF$NOTģ L&K&GkRc!rKc!kJc!k?!kLc!kNc!oRc!lCc!p^!FIRS]!SEŁDc!wCc!FOUR|c!HEAV>c!vLc!r8a刭*^Z?J?G^o?>Ncn8"
  , "cONNcIRc$Nc&NcUƈ#McNGGcA&NcAUƅ#McOMcķc&NNbkTkBPdTdKdHğGHcLHcZYƗ$GğGWcKWcp?AHaCJKlK]WGcXGcBXGcSWcHZZcHZGcHPcHZW"
  , "GcSƅ#HZTƙ#PcHPƎ$Ƨ$ZcNcHcScPcSPcDcHZcHƯ#cSWZcS]SGcPDcPZcTNcSZZcSƺ#XWGƻ$GcPGcQ˶#F0=咂%KUdS[SUdk1dNUdl_H[HUdoWdHOd"
  , "o1dlFdR[RUdR,ROaz2wUyA勐&yB劬%剞,刾*刳7yA#!Ǆ%!yBc!ǈ%!Ǌ%!ǌ%!ǎ$!ǐ%!ǒ%!xZc!x0c!x1c!x2c!ǜ$Ǵ% UbKORE$tWOJEONdO HUb=3220="
  , "IDEO坅$埣9cm%uBcFIR%vMcWOODcMET<cvLcSUNcSTOCKcHAV%SOCIETYcNAM%SPECI<cF&$Ɗ$CķR;ULģcLABORcREPRES>]C<LcSTUDYcSUP*VI"
  , "S%>T*PRIS%RESOURC%<LI$C%FESTIV<ƛ#]SELFcREA~anVɚ(qNcK&D*G)T>cS~OOLcKOTObm7mEpBkSmDc/3oKc/3rHc/3s^/3pQƊ#9ƅ#5c/3t"
  , "ZaP)TN*.IPkEanVm7oKkJdk[kLdkNdkQdkYdk4dk0dk5crHdƞ-b倮^倮~倦(~AMKOdJUEUIbwUǁ$ UaƟ%嫦+nV偀C偀~SECRE]M<%FEM<%SUITABL%EX"
  , "CELL>]PR&];T>īcITEM倶%COPYcCORREC]mNcnWcl1ckHckGcMEDIC&%RELIGION傟MNIGHTbm7rH倘+sUd倶:pQ嫜+lGpGJ$U)YeFEBRƉ$M)~eAPRI"
  , "LeMAYeJUNEeJULYeAUGUSTeSEPTEMB*eOCTOB*eNOVƑ%DECƉ$amDHGb*GbEVaLIMITĪLIABILITY僟$vZ#?^%:lBcK?K^K%K:l]S?S^S%S:lRcT"
  , "?T^T%k1奉2H?H^oWcH夫0lNcpNcYO夜/m夗)amD*A NAME REIWAbAPA;Ob)UHUAb$PEAbA)Ub&&GUb&TIbUONbESUKUUDObEEKAAbONSUbOOMUbKA"
  , "IRIbK);TObK)ORIIbGAļbG$MAbGIGAbG&IIbKYUƞ$IRUDAAbKIROƅ$GUĳUƋ$MEETORƌ%Wǔ$Ɲ%Ƈ&TONbKURUZEƼ$UROONEbKEES厝$UNAbKOOPOb"
  , "SAIƨ#bS$TIIMUbSIRɓ$S>TIƆ$ObDAASUbDESIbDǵ#Ǟ#N$ObNOǺ#HAITUbPAAƮ%PA;UbBA)*UbPIASUTOƊ$KUƇ%ObBIRUbHU)ADDObHUIITObBU"
  , "SSYEƙ$R$bHEKUT˦$PESObP>IHIbH*UǮ#>SƆ#EZIbBEETAbPO&ǅ#ORUȔ#ONbPONDƊ#ORUƆ#NbMɭ$ObMAǿ#MAHHAbM)UKUbM$SYƣ#Ƣ#ƈ$RIƅ$BȂ$"
  , "MEGAƅ$ɻ#˼'YAADObYơ$YU$bRITƙ$RIRAbRUPIIbRUUBUƓ#EMUbR>TOG>bW;TO典/HOURl4fkJfkIfkLfkNfkQfkYfk4fk0fk5fmEfvGfuZfxQfx"
  , "Rfw7fwPfxKfw2fxSfoKfTW>TY-ONEƋ'TWOƋ'|REƘ(FOU冔$PAblQbmTbmHbOVbPCbDMcp1cCUBEDbIUb儊(HEISE[SYOUW_TAIƊ#dMEIZIbCORPO"
  , "RģblDAMPSblJbo1AblOblBbKBbMBbGBbC<bKC<bPFbNFbo1FcGbMGbKGbHZbKHZbMHZbGHZb|Zbo1LbMLbDLbKLbFMbNMbo1MbMMbCMbKƉ#p1b"
  , "!CMb!Mb!Ɠ$ Ȼ$Ɨ/lHSep1blDbKPAbMPAbGPAbRADcƚ&PSbNSbo1SbMSbPVbNVbo1VbMVbKƆ# 倂$PWbNWbo1WbMWbKƆ#Ƙ%K OHǮ%AMbBQbCCbCD"
  , "bClHKGbCObDBbGYblAbHPbnSbKKbKMkDbKTbLMbLNbLOGbLXbMBkCbMILbMOLbPHbPMbPƄ#RbSRbSVbWBbVlHMĖA值/DAY倸*倸~ƌ(IVƘ(SIXƋ(EV"
  , ">ƍ'EIGHTƍ'N&EfrHf|IRǯ%amDG<a=4DC0=HEXAGĳpGpACRE;IVE 婀%dRECEPƑ#vLcDIFFICULTY ;pABEG&NĺYOU|FUL FOLLYcWAITĺŁFLIC]"
  , "pA)MYcHOLDıTOGE|*ckCTAMĺTREADĺPEAC%ST$DSTILLcFELņ.IPcGRE; POSSESSIONcMODESTYc>|USIASMcFOLņĺWORKpBpADECAYEDcAPP"
  , "ROA~cŁTEMPLģcBȫ$v2cGRǺ$PLITTıAP)]REłNc&NOC>CEȅ&ȷ&r3CORN*SȜ'REPOND*$CEɶ#BYSM<vMdCL&GıFIR%&FLU>C%DURģǩ#RE;ɥ(W*cP"
  , "ROGRESScD)K>&GlEpAl7cpAFAMILYcOPPOSIīcOBSTRUCīcDELIVȆ&DECREAS%&Ɖ&BREAK|ROUGʎ#M&Gk1MEE]GA|*侣,PU.ıUPW)DǱ#R˾&pAWE"
  , "LLcREVOLUTƒ%CAULDļd)OUSı|UND*dKEEPı俖$x]DEVELOPM>]pAM)RYıMAID>cABUND˅&W$D**dG>TLE W&DdJOYOUS LAK%DISP*Ȕ$囡$ģc&N*"
  , " TRU|ckC侚-AFT* COMPLEīc!BEFOREa=A0ĢYIs2I]IXc?IPcIE]IEXcI%IEPcA]AXc#APcĬU:ĶO]OXc:OPcEXc%W^BI]BIXcB?BIPcBIETƅ#Ƒ#"
  , "%Bǋ#BA]BAXcl3cBAPcBĬBU:BĶBO]q0cB:BƎ#Ƹ#%BEƧ#]BUXcB^BUƏ#RXcBĥBY]BľBYcBŅBYRXƅ#cPI]PIXcoNcPIPcPȃ#PI%Pȃ#PA]Pȃ#DcPAP"
  , "cPĬPU:PĶPO]PƑ#:POƝ#]PUXcP^PUPcPǹ#PĥPY]PľPYcPŅPYRXƅ#cBʂ$ʃ$B?Bʅ$ʆ%ʇ%ʈ$ʉ%B;ƅ#ƕ##Bʍ$ʎ%ʏ$ʐ%BO]BBƕ$:BBƓ$Ǉ$%Bʘ$ʙ$ʚ$B^"
  , "Bʜ$ʝ%ʞ$ʟ$ʠ$ʡ#BŅNBITƅ#Xƅ#Ƅ#Ɠ$EXƆ$ƅ$Ƒ#;ƅ#Xƅ#Ƅ#Ɠ#OTƅ#Xƅ#Ƅ#Ɠ#UTƅ#Xƅ#Ƅ#Ɠ$RXƆ$cNBYTƅ#Xƅ#cNǻ%YRXƆ$cHMITƅ#Xƅ#Ƅ#Pƅ#EXƆ$"
  , "ƅ$Ƒ#;ƅ#Xƅ#Ƅ#Ɠ#ĬƆ#ƅ$Ƒ#O]HMƕ$OƄ#Ƥ$Tƅ#ƨ$Ƅ#Ɠ$RƏ$ǹ#YXƅ#Ƅ#Pƅ#RXƆ$cMI]Ȑ#M?Ȏ#ȍ$MI%ȋ$MA]ȉ#l:ȇ#MUO]MĬMU:MĶMO]MƑ#:MƏ#ƾ#%M"
  , "U]Ȋ#o1cȈ#ȇ$MĥMY]MľMYcMŅFI]FIXcF?FIPcFA]FAXco:FAPcFOXcF:FOPcFU]FUXcF^FUPcFǐ#FĥFY]FľFYcFŅVI]VIXcV?VIƏ#ETƅ#Ƒ#%Vɑ#"
  , "VA]VAX斈$APcVO]VOXcV:VOPcVƫ#Ʀ#U]VUXcV^VUPcVǯ#VĥVY]VľVYcVŅVYRXƅ#cDI]DIXcD?DIPcDIEƌ#%Dǳ#DA]D˄#QcDAPcDĬDU:k:DƋ#:DO"
  , "PcDƳ#%DEƢ#]DUXcD^DUPcDǾ#DĥTI]TIXcT?TIPcTIEƌ#%TǦ#TA]TAX宷$APcTUO]TĬTU:TĶTO]TOXck1coRcTƽ#%TEƬ#]TUXcT^TUPcTǰ#TĥDɗ$"
  , "ɘ$D?Dɚ$ɛ%ɜ$ɝ%ɞ$D˒#]Dɠ$DĬƆ#ƅ$Ƒ#O]DDƕ$:DDƓ$ǆ$%Dɰ$ɱ$ɲ$D^Dɴ$ɵ%DĥNDITƅ#Xƅ#Ƅ#Pƅ#EƏ$%ND;ƅ#Xƅ#Ƅ#ƞ#OTƅ#Xƅ#Ƅ#Ɠ#ư$EƄ#Ǝ#UT"
  , "ƅ#Xƅ#Ƅ#Ɠ$RXƆ$cHNITƅ#Xƅ#Ƅ#Pƅ#ETƆ$XƆ$ƅ$Ɨ#;ƅ#Xƅ#Ƅ#Ɠ#ĬHNU:HNO]HNƏ$Oƚ#ƽ$EƄ#ƨ$]NI]Nɘ#?Nɖ#ɕ$I%ǝ$NAX嵴$ɑ#ĬNU:NĶn5cǕ#o0c"
  , "Nɚ#ƴ#%ǔ#Ǔ$ɕ#^Nɓ#ɒ$ĥHLITƅ#Xƅ#Ƅ#Pƅ#EXƆ$ƅ$Ƒ#;ƅ#Xƅ#Ƅ#Ɠ#ĬƆ#ƅ$Ƒ#Ɛ$:HLƎ$ǂ$EƄ#ƭ$Tƅ#Ʊ$Ƅ#Ɠ$RƏ#Ȃ$YTƅ#Xƅ#Ƅ#Pƅ#RXƆ$cLI]Ȟ#L?"
  , "Ȝ#LIE]Ƞ$LI%Ȟ$LA]Lʐ#?Ț#LUO]LĬLU:LĶLO]LƑ#:LƏ#ƾ#%LEƭ#]Ș#L^Ȗ#ȕ$LĥLY]LľLYcLŅȏ$Ȏ#GI]GIXcG?GIPcGIETƅ#Ƒ#%GȎ#GA]GȎ#YcGA"
  , "PcGUO]GĬGU:GĶGO]GƑ#:GƏ#E]Gǂ#%GEƱ#]GUXcG^GUPcGȒ#GĥKI]KIXcK?KIPcKIEƌ#%Kǵ#KA]KAX徴$APcKĬKU:KĶKO]KƑ#:KƏ#E]Kƽ#%KEƬ#]"
  , "KUXcK^KUPcKǰ#KĥGɫ$ɬ$G?Gɥ%ɦ$ɧ%G;ƅ#ƕ##Gɫ$ɬ%ɭ%ɮ$ɯ%GƖ$ƕ$:Gɳ$ɴ$Gǒ$%Gɷ$ɸ$ɹ$G^Gɻ$ɼ%GĥMǿ#Ɔ#%MG;ƅ#Ə##Mǹ#MGĬƆ#ƅ$Ƒ#O]MGƕ$"
  , ":MGƓ$ǁ$EƄ#Ʋ$Tƅ#ƶ$Ƅ#Ɠ$RXƆ$cHXITƅ#Xƅ#Ƅ#Pƅ#ETƆ$XƆ$ƅ$Ɨ#;ƅ#Xƅ#Ƅ#Ɠ#UOTƆ$XƆ$ƅ$Ɨ#Ɩ$ƕ$:HXƓ$Ǎ$EƄ#PcNɣ#Ɔ$ƅ#Ƒ$A]Nɩ#m:Nɨ#N"
  , "ˡ#Ɔ$XƆ#:NGƐ$Ə$Ǝ$Ƥ#ǆ$%NGȠ#I]Hȴ$I%HA]HAXcl#Hȩ#Ȩ$ĬHU:HĶHO]HƑ#:HƏ#EX懁$EPcWA]WAX櫓%PcWĬWU:WĶWƍ#:WƋ#EXcW%WEPcZI]ZIXcZ"
  , "?ZIƏ#Eƌ#%ZIƝ#A]ZAXcn1cZAPcZĬZU:ZĶZO]ZƑ#:ZƏ#ƹ#%ZEƨ#]ZUXcZ^ZUƏ#RXcZĥZY]ZľZYcZŅZYRXƅ#cCI]CIXcC?CIPcCIETƅ#Ƒ#%Cȉ#CA"
  , "]Cə#WcCAPcCĬCU:CĶCO]CƑ#:CƏ#ƹ#%CEƨ#]CUXcC^CUPcCȉ#CĥCY]CľCYcCŅCYRXƅ#cZʎ$ʏ$Z?Zʑ$ZIE]Zʘ%ʙ$ʚ%Z;ƅ#ƕ##Zʞ$ʍ$Z:Zʏ$ZƱ$%Z"
  , "ʒ$ʏ$Z^Zʑ$ʒ%ʓ$ʔ$ʕ$ʖ#ʗ$ʘ%ʙ#NZI]NȐ#NZ?NȐ#NȊ#Ɔ$ƅ$Ƒ#;ƅ#Xƅ#Ƅ#Ɠ#ĬNZU:NZƊ$Oƕ#Ƹ$EƘ#Ɲ$Ƅ#Ƭ$RƏ$Ǯ#YTƅ#Xƅ#cNZŅNȌ#Ɔ$cSI]kYcS?"
  , "SIPcSȆ#SI%SȄ#SA]SAXcl]SAPcSĬSU:SĶSO]SƑ#:SƏ#ƹ#%SEƨ#]SUXcS^SUPcSȊ#SĥSY]SľSYcSŅSYƘ#ȃ#SITƅ#XcSS?SȈ$ȉ%Ȋ$ȋ%Ȍ$ȍ#oMcS"
  , "Ȏ$ȁ$Ȃ$S:SȄ$SƵ$%Sȇ$Ȉ$ȉ$S^Sȋ$ȃ$Ȅ$ȅ#Ȇ$ȇ%Ȉ#ZH;ƅ#XcrJƈ#PcZHĬƆ#ƅ$Ƒ#O]ZHƕ$:ZHƓ$ETƅ#Xƅ#Ƅ#Ʒ$Tƅ#ƻ$Ƅ#Ɠ$RƏ$ǧ#YTƅ#Xƅ#Ƅ#Pƅ#R"
  , "XƆ$c~A]Cȅ#m0cCȅ#~UO]~Ĭ~U:~Ķ~O]~ƕ$:~Ɠ$E]Cȋ#sXc~EƼ$Xc~^Cȅ#Cȅ$~ĥ~Y]~ľ~Yc~ŅCȅ#Ɔ$cRRʅ#7cRRĬRRU:RRO]RRƏ$Ǝ$PcRRETƅ#X"
  , "ƅ#Ƅ#Pƫ#Tƅ#Ƶ$Ƅ#Ɠ$RƏ$Ǘ#YTƅ#Xƅ#Ƅ#Pƅ#RXƆ$cNR;ƅ#Xƅ#Ƅ#PcNROXƅ#Ƅ#Ǝ#ETƅ#Xƅ#Ƅ#Ɠ#UTƅ#Xƅ#Ƅ#Ɠ$RƏ$ǒ#YTƅ#Xƅ#cNRŅNǰ#Ɔ$c.A]S˪$"
  , "ƍ$Pc.Ĭ.U:.Ķ.O].ƕ$:.Ɠ$E]Sˤ#pHc.Eƶ$]S˩#.^S˩#S˩$.ĥ.Y].ľ.Yc.ŅS˩$S˩$A]ɲ#lFcɰ#RĬˮ$ĶRO]˱$:˯#˩$%˧$U]˥$^ˣ#ˢ%ĥˠ$ľ˞#Ņ˜$ɫ#"
  , "JI]JIXcJ?JIPcJIETƅ#Xƅ#Ƅ#PcJUO]JĬJU:JĶJO]JƑ#:JOƢ#]JUXcJ^JUPcJǴ#JĥJY]JľJYcJŅJYRXƅ#cQI]QIXcQ?QIPcQIETƅ#Ƒ#%QǴ#QUO]"
  , "QĬQU:QĶQO]QƑ#:QOƢ#]QUXcQ^QUPcQǴ#QĥQY]QľQYcQŅQYƘ#ɨ#ɩ$ɪ$J?Jɬ$ɭ%ɮ%ɯ$ɰ%ɬ%ɭ$ɮ%ɯ$Jƕ$:Jɲ$ɳ$ɴ$J^Jɶ$ɷ%ɸ$ɹ$ɺ$ɻ#JŅNJITƅ#X"
  , "ƅ#Ƅ#Ɠ$ETƆ$XƆ$ƅ$Ɨ#ĬNJU:NJO]NJƏ$Ǝ$ƞ$Ɲ$Ƅ#Ǝ$RXƆ$cNJYTƅ#Xƅ#cNǴ$˱#Ɔ$cNYITƅ#Xƅ#Ƅ#Pƅ#ETƆ$XƆ$ƅ$Ɨ#ĬƆ#ƅ$Ƒ#O]NYƕ$OƄ#Ƥ$Tƅ#"
  , "ƨ$Ƅ#PcXI]XIXcX?XIƏ#ETƅ#Ƒ#%XǙ#XĬXU:XO]Xƌ#:XOPcXY]XľXYcXYƏ#RXƅ#cYI]ȱ#Y?ȯ#Ȯ$ȭ$YI%ȫ$YUO]YĬYU:YĶYO]YƑ#:YOƢ#]ȧ#pNcȥ#"
  , "Yʮ#YĥYY]YľYYcYŅYYRXƅ#b=A490=RADIC< QO]L?KITʲ%CY呾$夫%墮$I墓%LYR惙%Mȃ#:PUT塣%TA]lYcZUƽ#T崙%BĥGGUˋ&T^偏'ZO]PY]HMOɽ$Vĥ.Y"
  , "廚$n1cJO喿$偓$GOT傲%W:D^.ĥLI%CY圠&IP壋%.A]ZUR务%sX囝%愼%KEa=A4D0=LISUkB睡%nKclQclRcnCȺ#lBcm3cm^mWcm0cDZ#pZct9cl:lJcl?l]r"
  , "JȠ#m:l#X#HH#o:m1cmRclNcnZc#A%%E^?:^U%UHcp?oYMYA T[lJPOdƌ#CYAeBOelJeJEUbpSo4c篦$VAIs2o?E>cHE%WE%WE>cPE%BHE%BE%MB"
  , "E%KPE%MGBE%ƅ$FE%VE%TE%|E%DHƅ$HE%LE%RE%DE%NDE%SE%.E%ZE%ZHE%CE%JE%NJE%YE%KE%NGGE%GE%ME%NE%NYE%?nScH?H&cW?W&coNcB"
  , "H?B?MB?KPIț#?GB?F?V?T?|?DHIȔ#?L?R?D?ND?S?.?Z?ZH?C?J?NJ?Y?KIȆ#?G?M?N?NY?#$cNG$cl#H$娙$$clDco#l3cMB#KP#KP$Ȋ##GB#o"
  , ":nM俷&n0Ȉ##l?lFclQcND#l]mRcn1crJ倌$^NJ#lN峚$$Ȋ##lY倘&m2璮$ONcHO:WO:Wƍ#PO:BHO:BO:MBO:KPOOȆ#O:ƅ$FO:VO:TO:|O:DHƅ$HO:LO"
  , ":RO:DO:NDO:SO:.O:ZO:ZHO:CO:JO:NJO:YO:KOOț#O:GO:MO:NO:NYO:^UNcH^HUNcW^WUNcP^BH^B^MB^KPUț#^GB^F^V^T^|^DHUȔ#^L^R^"
  , "D^ND^S^.^Z^ZH^C^J^NJ^pNcKUȆ#^G^o1cN^NY^:pBcNGON寗%NcW:Wʦ#:BH:B:MB:KPʡ$:GBʤ$NcF:V:k1c|:DHʟ$:L:R:D:ND:S:.:Z:ZH:C:"
  , "J:NJ:Y:Kʑ$:G:MO悏$Y:%oGcNG>屗$>cW%W>coHcBH%B%MB%KP%KP>Ȑ#%GB%GB>cF%V%T%p#DHEȏ#%L%R%D%ND%S%pHcZ%ZH%C%J%NJ%Y%KEȎ#ƅ$"
  , ">cG%G>cM%N%NY%NGcL>G|>*翱'bqNkRbs2NDOLEoOdlBdSOOblGFE>GcKƆ$TĺNI?B$GcFA#TA#D$GcDOOƧ#UƦ#OƐ$-:JķblSl4c猾9Ǵ'lOdDOa=A"
  , "640=uEĨZEMLYAĖkCġDZELOƏ)mXDZEĞƏ&pYƪ*J*VƏ)ń珄% UKƱ)BROADpLƑ)rWY*Ə%!ĨY*U(BACKb/5ƥ&wKY;Ğȅ(pNĞƝ(Aȑ*3qDYUSĸǑ(BL>DED"
  , "Ǥ+wKƨ#Ǡ)YNɢ+TSɢ*SOFT DƑ/ELƑ/MĞɺ*CUL) Oǵ+BIƗ%ɮ,kMƮ(ȴ(BMULTIƕ%aoTuEVZME]mEMILLIONSkEĜnUĜp9aSLAVONICrUƬ$kBUKRA&I$"
  , " I,[Y[UdH)Dk,Y*UdȰ#k,pLcKAVYK#PAY*OKauEƑ%bƑ&ġDWE倍+Ǝ+ZHƎ+C~ƪ,ZƎ*TE(lClL˲)TWƟ+SƎ-SƎ+Ǘ,ǲ,SƎ,kMˮ,wTƎ$ap0kBuEʀ&!ɽ#"
  , "ʨ&EFdwKEaBAMUMkB#lBc^K^o?RE%TA%:NY??l?lDcRI?RI啪%售%Ƨ$#NDA#NJAEMcMcSU^o1c.I?S?.EUXcSƅ#K啲%]NUA%N^NJUA%YOQc.^YUQcl"
  , "NcN.#Kư#PEUX喫%NTE%PU%WU%P嘈&R^LU唰&Rƫ#RA%K>cNGKWAE哉&m:.:PUA%F^FOMcm界$L?oNcLOQcK:MB>cR>cM>cl:T?K?M:MBA#TE]KP#m%NT"
  , "U^SAMB#FAAMA%KOVU^KOGHOMboTkRKOQNDONdTUKW>TISbʛ$LI勳&勾$u9勼$a=A7Ģp0kB~&ESEoYY& P&Ge!vOeY& .AƏ+QUƌ)Rƌ$:EXTRA-HIGH"
  , "qQoYmHc/3mNc/3MIDc/3l1c/3ƣ%ņĜƯ+LEFT-STEMc/4ƴ#4ƴ$4ƴ#4ƴ*3ƴ(ǝ=!kOk9duOdmGmHcl0kGtOp:q9kZkPd!k7dq7kRĲnHƿ%STRESSkFm"
  , "NoYe!l1anPĨEGYPTOLOGIC<lP剢%ƙ0pVƙ)H>G儼*Zƌ)ǣ#IL友+CU;RƓ#Ɠ2(o4ĸkCğkCkDFeSġmBƭ)Aƹ*mTƘ*Vƌ+(ʇ#凹)AYƶ*XC(kOƝ)K(lK厼+K(pC"
  , "Ơ$ĖƢ(kFb/7呑)K> Lʄ)L(mNlKǖ)O(mPlKwNb/6Ɠ)t2ĸƏ&n8ȕ)P(lKv2uDƮ)P(FLOURI.ĸƕ)SQUIRRELo5ǭ)Qƿ1Q(pCȑ+R ROTUNDA励+RUMɄ)VƳ/"
  , "Vʷ*VISIGO|IC ZƳ)|ORNˀ&Ɠ+Ȑ1V>Dǎ)ETƌ)ISƌ)ŁĖ卂&USanPĴDUMdLUMdMUMdNUMdȶ#!倥%įTUMdUMġwRDȟ)wRFƍ+GĲmCȫ)mCLƟ+Rƍ+Sƍ+受*l1n"
  , "Np2cqRcn6pXkE儶&S<T僗-m~įL(qMlLkFBELTğS&充'kOġN(uDȖ)C(mHƏ$fxYlLĻHġB們3F˽-VOLAPUK AEĞƔ-pIƓ0 UƧ*G(OBLIQUE倃&ĞĨƍ,Nƍ+R"
  , "ƍ+S倷)H(lLdmXmV,rXGdL(ɼ#dkCkDI凜&Qʤ&KeTdJ(y0dq6dsVʿ)pLƌ)Uɥ-rMAĞƍ(Iƍ+Uƍ)oZPOLI. Oƻ)$GLIC$A WĞ˱)˩$!Sk_!Z(xYdD(n6凁("
  , "ĸĨSƍ%=A7D0=Ĩp3wRGǠ$dƕ#3=kM|ORNeƎ#5=WYNNġlCSCOTS 堥,SIGMOIDȊ$a=A7F2咕$kDCdFdQ做&mXl9Hƶ%EPI壝$ICkBxNIaƭ%H(lKckCqOpIa"
  , "nPˠ%mCMƯ,mXFePdnHMdI Lķ_s4MaSYLOTI NAGRIkB_?kEDVISV)#kBUd,:kEHAS$T#kBKOdKHOdGOdGH:kEn2ckBCOd~OdJOdJHOdTTOdT|Od"
  , "DDƄ#HOdk1dƐ$OdƎ#o0dPOdPHOdBOdBHOdMOdROdLOdRROdSOdH:lMkEAeIeUeEen8cPOETRY M)K-1+3ckEsAȔ&a=A830=n3&DICsBkJqAel9d"
  , "kLvBdkJy8esDdkLSIXTE>|ScqAkRc!PLACEHOLD*c!RUPE%!QU$TITYǗ#40=PHAGS-PAkB忉%lYcmO忌&m^m2忪'QclJ忿'3clO忦&DZ#m1忡&kC#lN"
  , "帔$I忛$]l#纘)Q#X#o:GG#oIby9kBm1dlNğnRco%n]n9csAlNc誈$LESSmRcwVl#ASPIR;EDoOƺ$lFĖSUP*FIXEDğp7bm5t4kRĖkMbkR.ADc!kMɮ#Ĺ"
  , "SAURA.TRA俙$pDğ#mBc?mFc^mScnDRdoSdLdpJc%o?m?:n8cm]ʣ(nZʦ,o9ʩ#ɂ(oPcn9ʸ)n0ʻ,o#lOʧ)nMʪ#oMʭ&qEbrFkEHA)UblMkEmBd[mFdU"
  , "dmSdnDReoSeLepJd,o[m[Odn8dmTĩoVcp7b=A8CE=t1b!kM岱?ʘ#E0=oTDEV$AG)IƲ#胳;kB_UdlBdlJdlDdlFdV?kEtHaǄ)kESPAC&Gp7cp7oVĜ"
  , "kMcp7ǔ%tHcPU.PIKAbGAPyCbC)ETbHEADSTROKEĩyWbJA& OMb回$!ʎ#aKAYAH LȦBlBdm3dlYdmOdlTdmRdn1dm2dlRdHTAȾ&nKdlOdlQdl3Ɋ#"
  , "lNdl[m1dnCdl_nMdmWd_p[[n8clMU,,Udo[:oYPLOPHUdC<YAeƍ$^kECW[.YAaREJ$GȊ#兗&lR先(充&mW兦'T倐&lN婉$#MBA婫$猀%YJ#Abʃ#[UdE俹%m"
  , "TdEUdEAbrFk>GdNdRdHboVb=A95F=sNkRawU~OSEķ 襣%讕&ƍ%襫%ƍ&襂$ƌ&襹%诊)谞*誱3谄*读7ƪ+Ƒ+訶'谠5Ȉ%ƫ'HIEUK諴'Ȏ%ƍ%Ȏ&謂*誺*誡'Ɠ%ǆ&Ǝ&豤%谽)"
  , "Ȭ&詄%Ƕ$ƌ%ƨ+ȓ$Ƒ+Ǡ'詤&ƛ&Ɔ$-誸)詯*a=A9ĹJAV$ESEkEP$Y$GG#CECAKcLAY)cWIGNY$ğ#I KAW[动%lDC*EKcmOLELETeRASWAD?%m?:lBdSASAKd"
  , "wBclYdwB劮%Ɖ$^m2ƈ$xJ劵%dxJcnTƆ#lJư#Rƶ$QƑ%clDƏ$3dwB劷(dAGŃclI傪$TwBdxJdclAĩȾ$ TEL劽%T)ŃdTOLķdWULUeMELIKdSUKUeM>DUTdT"
  , "<&GdDIRGA MUR,PEPET僕$K*ETdP>GK<dCAKRAbP$GKONbkHR*>GG$b!kGbPADA A瘫$MADY#LUHĥW&D^ƶ$A]L&GS#LŃS?ADEGdƅ#cPISELEHb奀$"
  , "=A9CF=P$GR$GKEP懹?Ʋ#DE=Ȃ$TIRTA TUMETEScIS>-IS>aMY$M)kB.$nZdm0do9dn9doAĩ.$ SAWbp0Ƣ% REDUPLICģğTAI LA&Gm2eoOelYen"
  , "ZemUeo9enTeoPen9bƤ(Ȱ#ekJekIekLekNekQekYek4ek0ek5Ǐ+qEelQen0el3eoAa=AAĢ~AMkB#?U偖&哾,NGU%mO湧%HA唅&NHU%NH#NHJA唁,NU%l"
  , "JcnT粢$PA唌)MU%l:BBA唔+唑(唄,E[Udp[Odm[mTdU唭%lNdlF厹%b=AA40=kBkTKdGdNGĖƣ#bƒ#~dTdNdPdYdRdLdSSƾ$kTMeHƸ#50=俦AA5C=pSSPIR"
  , "<ct1c!kMc!oX俟)KHAMTIlYdmWdm0dmUdo9dm2dnRdo,nTdoPdn0咁$Tdl_HH_oObp0ƻ'俺.Ɨ(X_n1dlFbLOGOGĳ ƙ&OAYdQNdHMblGAITONq7唜%ğ"
  , "Ɛ$lFĩPAO K)>oYc俽(x9eTONE-5b懹% P<AŃm0emRaƧ#VIETkBl1KOd!mNdl1KHƋ*ƌ)GƊ(NƋ)CƊ)ƪ)Sƪ)YƋ(DƊ(k1Ɗ'Tƴ)o0Ɗ'BƔ(PƊ)Ʃ)FƊ(MƊ("
  , "Ǧ)RƊ(LƊ(VƊ(ǆ)Ɖ%cMAI K$GclMmBd[U,Ud,Oƙ%HI]lMI_UE_U_AU,AYd$dAMcoYƤ#EKeNU>Ge|OeSķc=AADB=lGKONdƛ$dSAMdHO HO[KOI KO"
  , "IaMEETEI MAYEKkB,Odm0偄09dmRdoMc儣$FemSeAAIemTeAA^~EIKH$cAH$G KHUDAMc$J?s2REPETIīkRĜt8Ǆ$pDcoVa=AB01=E|IOPICs2T|^"
  , "T|?T|A#T|E%T|%T|:ư#9=DDH^DDHIƅ#A#D歂%DH%DDƦ%11=DZ^DZ?DZA#DZE%DZ%DZƠ$20=C~H#C~HUƆ$?ƒ$Ɠ%EEƇ$Ɔ%Ʋ%8=聩%U肛&A#BBEE聍&O"
  , "Ɍ#30=nPĴx7pPdA REV*SED-S~W_BLACKLETT* ,!x7dE庆)dL>IS FdrXG(y0dL(nHLAZY SfkMlCmYflCmMdM(y0ĲNĲ>GǗ,Of(lKĻmVdnHp[mC"
  , "pI(lKg!mGeO OP>-OgƦ$STIRRUP R幆&R(kGLEGįR WI|OUT H$DL,kMRdRǻ%3kMdrXRf(mMdBASEL&E E.dU(n6ǅ$e/4mHdU[!mCdU(kHlLdq6"
  , "e(l1kGmMgkHS*IFdXƒ'fmPkHLEGikFƑ%i(ƣ%YǗ(ap0pK(nHpKğk~>Gʪ,ʨ#ǯ'惱&SAKHA Y;dwK,mVp[UOʟ#PasSɻ%pƬ'DZrN恣%d/4TSdmCR(ǔ#"
  , "帟%CmCWckHrPc!kGa=AB70=~*OKEEĴ_,[OdUdVdlYdlBdG,GI巤$UdGVdlA鈵$[HOdHUdHVdl[L,L[LOdLUdLVdlOdM,M[M鉜%JdHN_NAHdN,N[o0d"
  , "NUdNVdQU_QU,QU[QUOdQUUdQUVdlTdSdS,S[SOdSUdSV婹$RdD,T,D[TI幃$UdDVdDL_TL_TL,TL[TLOdTLUdTLVdpZdTS,TS[TSOdTSUdTSVdm1"
  , "dW,W[WOdWUdWVdlN削.KOK副$LA[MITdlDɊ#~ILdTILdKHOUdNGOUdTƊ#WA[vʓ#KdUNd[PHAMd;IY_GOKdJƏ#RA[l3dJILdDILdGƸ#Dƅ#Bƞ#KOK "
  , "LONSUMd!LA[!Ƿ#!lDd!lJd!Ǹ#!ǵ$!I劉$ONAPeIƅ#Aƅ#YEƆ#SOUƇ#ƅ$~EƟ$NŃ勪&E?LUM IYEKc!APUNc=ABF0=尪>a=D7B0=wUJŃ嬨%O-YE:O-O-?"
  , "YO-Aƅ#阖%E:U-YƆ$I-?YUƘ$U-:EU-Aƅ#EOƆ$ƅ#:I-YAƇ&EƆ#Eƌ$%IǛ#Ƌ#Ɛ$^I陝'-Aƈ&Eb=D7CB=JOȕ'顆$媒&ƌ%~IEU~馀+ƌ%寛+寨?韭+寻,ƍ&Ǧ'Ə&馯'"
  , "尖7Ǌ&嬝+宻,尝+ƥ%飲+餅2騒.韶'餉1ǎ$预)鎯*-ʯ$ƌ&馰)Ȟ%Ɩ$饅+餿*ʉ%餢3骭,Ɣ%ɔ%骡*餻C˞(Ʀ#ǂ%Ƌ$崕-Ǖ%餽*Ƒ%餷/飳'餹*Ƌ$ǥ(崌*ƍ%ʴ&P$峻*P$ȃ2˹'ȥ%Ə)隺*ǀ%ƌ&"
  , "ʈ)鮃+ʲ&ˤ$ƍ'Ȓ'a=FB0喭%qOFFdF[FLdFF[FFLdmPS TdSTƦ#13=)M>I$Ƭ#M> NOWeE~e&[VEWƐ#dM> XEHƲ$D=HEBREWkBYOD(HIRIQbvKJUDEO-"
  , "SP$I. V)IKAbqOYIDDI. YOD Ƅ#P;AHğ<T*N赚%AY&cWIDElPdD<ETdoWdqFdLAMEDdkTtDdu2dTAVcƶ*k3k%p6(p6kOe!S&e!DAGE.kFp6g!S&"
  , "clP(Ǵ$eQAM;SeMAPIQcBET(ƭ%ĜtQĜD<E]oW(ƣ%VAVƣ*uMc=FB38=/2TETĜYODĜkTqFc/3Ĝȭ$Ƥ$E=/2tƋ$40=/2oFĜtMƐ$3=Ƴ#oHc/3Ɛ$6Ǐ#SAD"
  , "IĜQOFĜu2Ĝp6ĜTAVȄ%HOLAMȲ$)AFEĜqFĜoHbqOlPǸ$atNkBlPWASLAlVoLe!k]!BEEHlVd!kTd!l6d!m9c!PƗ5BEHƙ5TTƚ8Ƴ9Ƙ5VȒ6ǈ7DYƘ5NY"
  , "Ǹ6~ƙ8Ǥ8DAH<ƚ%]!DƏ.Uƍ+Dƛ+JEHƍ)RRƎ+KǮ7GAFƗ4Uɩ6GOƙ5o6GHUNNAlVeȁ'NOONƫ3qG(lUkKlVgƜ&GO<ƹ&e!l6e!m9d!DOA~A.MEEƟ0c!lUB"
  , ")RƜ+(pMǙ#h!kTblGkOkKdkVckIlXkKeƊ#LƊ&eqUlWkKgƔ#Nƞ'!kMk9mHƱ$yHkKfkVcmMckCqSƢ%僖$kKb=FBD3=kBNGlVoLɥ1U˼)pIƌ*Nƌ)UȮ'Ĝ"
  , "VEƖ'KIRGHIZpIɖ&d!pN˖)E˒3UIGHUR KAZAKH ǂ&lPm4l6h!m9b!qOlǰ&(lPlVi!kTh!AEƌ)o7ƌ)UƋ)pIƌ*Nƌ)ƺ'i!l6Ȇ(ǿ'ǯ)ȉ$Vj!Ɖ#kTj!"
  , "ț%b!kBF)SIlU俟,ȳ2mAlVh/2l2h/2k6h/2ǃ#Ƈ#UĜr6(mAeƟ#e/2nLeƤ#eƤ%eƤ&sHƤAvP(mAƚ3mA(l2ƚ$cǃ#ƨ(cǌ#ǚ&ơ)qJǭ2ĜrEǇ+sIƦ5qSƦ*4Z"
  , "AHĜpVǳ+s8Ǝ+rDɛAqT(l2ƚ4F(lPe/2ǃ.o8Ʈ3o8ǬAk6ƤAo6ȴBG侏7lUƾA|<(vVlPc/5qYc/5ƞ#Ĝ.ADDA(DAMM;$e/2KASRƋ&v9e/2wYƅ#ǡ#ǀ$!傉)q"
  , "YkTh/2t3傉'o傎3qYeƤ#Ș'o傎1ƤAvPƤArD(俧/保1俎<便4lP偝'oɎ@ƌ%˫&ƒ#Ʊ>e!凔(6凔'nLː'qG凒8Ɲ&sHƝ7ʶ&k6决D冮HnL决EĜZAH(k6冲S冦-侽&冕5cƊ#ʅ:k6"
  , "Ǡ5o˗8兯0俎(Ʋ7俇(k6m9侸+侩-侚-Ǯ*Jƪ,FƜ,F(ɪ(4o8ƅ#Ɲ(lUƫ(凍*冷*#!qS呷'傤'pV(冂,8Ɛ-qJƠ.FƐ-l2(吒-Ɛ-nLƐ-rEǐ.IǠ/˙6Yc/4qJc/4r%/4sIɎ*"
  , "kTɎ%Ɏ~Ɏ~Ƭ%l6Ʈ.ȶ&qGƨ#F兔&k6c!冠%m9Ʊ)ǲ2Ʊ&唳(!lP(zDkTf!lVaORN;EkHq8b!kGatNqORAHIMAHU <LAAHcRADIƌ&U $He$HAAe$HUMƆ%Ǝ&N"
  , "N#S<LƬ'<AYHI WA-A<IHcƐ&AS-S<AAMc!Ɠ%MƊ)AAƧ.;U WƳ)QUDDISA SIRRAHǯ'Ǯ,ǭ$EEǸ#Ɵ$Mǒ%AAǺ*TABA)AKAƦ#TAA<A#ɹ'Mɺ'卓%(k6l6o"
  , "Le!l2Ƒ$Th!l6g俎%4nLe剜'g˹#g˹$!ƺ%(l2Ʊ&c!l2Ɣ&UkTg叾%俋&l2倀&厤'g!僞(Ǉ%Ƕ'mAg!k6ǖ)厓%Ǫ*e!k6(Ƥ#倸$ƾ(e!Ǟ$UǗ(nLǗ$ǒ.sIǒ%Ȃ(nL(k6"
  , "Ɵ'qSɛ'ʌ+g!Ǚ#另((ʠ$Ʒ&ɐ(写&ȡ%ʅ#Uʊ&吃&ǫ.Tǫ)g勼((l2ƻ+ɘ$ˁ%h!Ȳ/e!Ȯ,c˒#˳'Ȼ+ʟ'2ɒ&Ǉ$ƥ(e=FD92=価%nL吝&俺%ț(6侼-ƭ%ʃ-˼(ɺ(叁(ɺ+r6ʌ%"
  , "˔%4傍%ɰ&ș$ǁ*Ǒ2偿(Ue勚+5ȧ#5qJɂ&倻(^/6sFƅ#?/4啈'4ɕ$lU喁%4Ɠ(6ƅ$qTɲ(侪,l喋'l2劭&pV僸)ƹ#Fc!o6(ˮ'c!kɯ+!o8兼)c!qF(僓'Ƞ(Ĝǅ)ɳ$ɍ)4俞%"
  , "ȫ&4rD(Ɖ%ȯ$ǒ(ǡ'4pVƯ%4rE卡(ȑ(ɨ'm#=FDCF=則%U剷&NAƘ$F0=S<LA USĪAS KOR$ICnYkElVoLc/7Q<AĜ<LAHĜAKB)ĜMOHAMMADĜS<AMĜRASOUL"
  , "Ĝ<AYHEĜWAS<Ɲ%Ɖ$勽)OU Ʀ% Ƥ(J<LAJ<<OUHOUaRI<kE叠$BISMIƷ# )-RAHM$Ɗ&EEMcSUBHA$AHUm1匙'AZZAm1J<LaV)Iģ SELECTOR-1+8bƍ)0"
  , "+6az4oLpGk9o4e!tFfpRnYeqReu9eq7kRe!qNekHkUy6nOekGƉ#BRAKCETemGELLIPSISa=FE20=oTqOkHl9c!kGb!kMmYkHdƎ&o3kHƚ%ŁJO&&"
  , "Go3bƳ%kVĜkGĖƳ#ƌ'o3ƌ'!Ƶ,uETITLƺ$ǟ$Ɉ(kIkOLEAD*eEMq5e!oGel1nJe/2WAVYekHq8e!kGekHrZnOeǟ#e!kHwMuPe/3Ǝ&kSy6Ǝ*MpOƎ&2k"
  , "Hƴ)tǀ'2ʤ#Ƣ$aSESAMEkOĕkUș)HmDǮ&aDA.ĪOV*L&E@C>TREƍ&Ȩ#ĕkMƩ&ȿ#ĕƤ*Ɍ%akCo4b!tF腩%=FE54=u9bqR虨%!q7bʇ#b嘷(bɶ%b˕$ɶ'bȸ#bm7"
  , "kEbyLbrUbk3kEbz5bnEkEb!nGb!pXǡ#68=rKrLbDOLL)ƞ$P*C>TbzX;a=FE70=tNzDlVoLbT;WEEL(zDkKb岱'ƛ$o5FRAGM>TbKASRƘ(ǂ#6=/2v"
  , "9c彇&wYlVƌ(Aƌ).ADDƐ+UKUNƏ)kBpMlVĜlP(Mƫ#kKg徤&pM憾']!o7(ƒ-lPƒ$Vƒ*UƤ,g!l6g懇'P愔)r6惠3sHM)BUTA愔)Ƨ3vPƖ3mAƖ3l2Ɩ3nLƖ3捥,|"
  , "Ǝ+qYƌ)t3Ƙ*JɈ4FƖ3rEƬ4IƖ3qSƖ3ZAHƗ3pVǙ48ȅ4Dǯ4TƖ4ɇ4oǘ4k6Ƭ46ǘ4GƬ47˗)寔&Ǝ'Uư,户(o8(傶*抧&g!pMƎ(h!kVƌ$娢&f!k冁$FF=l4WID| NO"
  , "-BREAKvJa=FF01=FULLƛ$q7kRb!u8凸%!凒%凐*yLbxG刺)刘(o4bz5割%rL癿@qRbu9剉'pXb!nG办%zX;bnPĨAeBeCeDeEeFeGeHeIeJeKeLeMeNeOePe"
  , "QeReSeTeUeVeWeXeYeZb卑%b劎$kGƌ$nNp2bl1nJbnXp2ǜ#CǜT匥'k9nJbkGƌ$mYbkHkUq8b參$H<Fˈ$tFʊ$kHtO南'tFo4bvZlCk:kBWOdkC网'OelN"
  , "epNeYOeTUbzPPROLķEDu0kRbvZkB_[Ud,谜$K[KUdK,KO澦$I澞$,SOdlRdT[TUdT,k濶$NI濨$,o0dl_H[HU瀾$O瀣$[o1dM,MOdlNdpNdYOdlFdR[RU"
  , "dR,ROdm1dNcwVȌ#ĜSEMI-绬$DbwUyCckBy_浙*dƇ%欴$d沺$Ɔ%毢%ƌ%殇%dyBd渁*d沦$dz8d浵*d浜*d筭)Ƌ%残'd泠+Ǝ&ǣ&ǅ%ƿ%毤)d泬)dƅ$没(dIEŃdȬ%氊)dxZ"
  , "dx0dx1dx2dǚ%=FFC2=_AEʺ#YA,EOdEƗ$A=YEOdY,ʽ$WA,pIƙ#D2=YOdUdWEO烺&pNƘ$A=EUdY[Ia=FFE0冐) C>T啐%OUNDb!n5bo3b蛯%mHbY>Ɵ$W"
  , "ONƼ$8=傄( FORMSl7k9bk2kPb!lZb!kWb!lWbkSmDbkUl8Ƹ#F9=&T*L&E) $NOTģ $~ORcqHcT*M&;ORaOBJECT RE膴$M>TtWĕ" ]

end CommandLine.Text
