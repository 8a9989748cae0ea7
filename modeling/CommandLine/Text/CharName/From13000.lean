/-!
# Names of characters from 13000 to 1BFFF

The names in order of the code points, in the written form of `CharName`.
-/

namespace CommandLine.Text

def namesFrom13000 : List String :=
  [ "Ē30ĢEGYPTI$ HI*OGLYPH A001+4cA005AƆ#6ƅ$Ƌ%BƆ#7+7cA014AƆ#5+2Ƈ#7ƍ$8+1ƹ#32AƆ#3ƨ$40AƆ#1ƅ#2ƅ$Ɛ$3ƅ$Ƌ$4ƅ#5ƅ$Ɛ$6+24cBȆ%"
  , "BȆ#Ɔ#6+3cC001ƅ#2ƅ$AƆ$BƆ$CƆ#ǰ#C010AƆ#1+13cDǅ#7Ƈ#8AƆ#9+18cD027AƆ#8+Ƣ#31AƆ#2+2Ƈ#4ƍ$5+11cD046AƆ#7ƅ#8ƅ$Ɛ$9cD050ƅ$A"
  , "Ɔ$BƆ$CƆ$DƆ$EƆ$FƆ$GƆ$HƆ$IƆ#1ƅ#2ƅ$ǀ$3ƅ#4ƅ$Ɛ$5+1ƞ#67AƆ$BƆ$CƆ$DƆ$EƆ$FƆ$GƆ$HcEɫ%Eɫ#Ɔ#9ƅ$#E010+6Ƈ#6ƍ$7ƅ$Ƌ$8+2cE020A"
  , "Ɔ#ƽ%28ƍ$9+5cEʍ#Ɔ#6+2cF001ƅ$AƆ#2+1Ǝ#13AƆ#4+7cF02ƛ$22+9cF˔$F˔#5Ƈ#7ƍ$8ƅ$Ƌ$9+6cF045AƆ#6ƅ$Ƌ$7ƅ$Ƌ$8+3cF051AƆ$BƆ$CcF"
  , "ʸ#Fʲ#Gɯ#5Ƈ#6AƆ#7ƅ$Ƌ%BƆ#8+ƥ#11AƆ#2+8cGɪ#Ɔ#Ƹ%26ƍ$7+9cG03ƍ$37ƅ$Ƌ$8ƥ$43AƆ#4ƅ#5ƅ$Ɛ$6+8cHȁ%Hȁ#Ɔ#7ƅ#8cIƗ#4Ƈ#5#I傷$Ƈ#9#"
  , "I010ƅ$Ƌ$1ƅ$#Iȝ#3cK侾%L001ƅ#2ƅ$AƆ#3+3Ƈ#6ƍ$Ƣ$8cM001ƅ$AƆ$BƆ#2ƅ#3ƅ$Ɩ$4+6cMǮ#Ɔ#1ƅ#2ƅ$AƆ$BƆ$CƆ$DƆ$EƆ$FƆ$GƆ$HƆ#3+Ʒ$5Ʒ$"
  , "6ƅ$Ƌ$7ƅ$Ƌ$8+4cM02ǚ$23ƅ#4ƅ$Ɛ$5+ƒ$8ƍ$9Ǎ$3ȷ$3Ƌ$3ƅ$AƆ$BƆ#ȷ%4ȷ$41+3cNʚ#17cN018AƆ$BƆ#9+6cN025AƆ#6+7cNǈ#Ɔ#4ƅ$Ƌ$5ƅ$Ƌ$6"
  , "ƅ#7ƅ$Ɛ$ȵ#N˯#ƈ&5AƇ$6+11cNLɛ$NL儣%NUƧ#9cNUˏ#Ƈ$1Ɔ%ƍ%2+6ƈ$8Ə%9ȵ#Uʐ$O001ƅ$Ƌ$2+3Ƈ#5ƍ$6ƅ$Ƌ%BƆ$CƆ$DƆ$EƆ$FƆ#7ƶ#ǹ#Ɔ$BƆ$C"
  , "Ɔ#1+8Ƈ#9#O020ƅ$Ƌ$1Ʊ$24ƍ$5ƅ$Ƌ$6Ƙ%ư$30ƅ$Ƌ$1+2Ƈ#3ƍ$4ƍ%6ƍ$ș$3ș$3ș$37+1ǅ#5ƺ$5Ȏ$51cP001ƅ$AƆ#2ƅ#3ƅ$Ɛ$4+7cQ˂#6cR001ƅ#2"
  , "ƅ$AƆ#3ƅ$Ƌ%BcR傸%Rɰ$Rɤ#5Ƈ#6ƍ$7+12cS001ƅ#2ƅ$#S儢%Sˍ$S咜%S014AƆ$BcS咢$Ƈ#7Ɠ$8+8cS026AƆ$BƆ#7Ɠ$35AƆ#6+10cT00ʖ#TȚ$TȔ#3Ƈ#7"
  , "ƍ$8ƅ$Ƌ$9ƅ$#T0Ƶ$11ƅ$Ɛ$2+4cTȺ$TȺ$5cT032AƆ#3ƅ$#T˯%U剉%Uɂ#Ɔ$BcUɈ#16cU023AƆ#4ơ$29#U030Ƶ$32ƍ$3+9cV001ƅ$AƆ$BƆ$CƆ$DƆ$E"
  , "Ɔ$FƆ$GƆ$HƆ$IƆ#2ƅ$#Vˊ#4cVɨ#Ɔ$BcV升%V01Ǜ$1Ǜ$1Ǜ$12ƅ$AƆ$Ɨ$3+7cV020AƆ$BƆ$CƆ$DƆ$EƆ$FƆ$GƆ$HƆ$IƆ$JƆ$KƆ$LƆ#1+2Ƈ#3Ǐ$4ș$28"
  , "ƍ$9ƅ$#V030ƅ$Ƌ$1ƅ$Ƌ$2ƅ#3ƅ$#V˦#ƍ$7ƍ$8ǘ$40#W˹#2Ƈ#3ƍ$4+5Ƈ#9#W010ƅ$Ƌ$1+3Ƈ#4ƍ$5Ʋ$17ƍ$8ƅ$Ƌ$9ƽ$2ƥ$25cXǜ#3Ƈ#4AƆ$BƆ#Ƙ$6"
  , "ƅ$Ɩ$7ƅ#8ƅ$#Y001ƅ$Ƌ$2+6cZ001ƅ#2ƅ$AƆ$BƆ$CƆ$DƆ#3ƅ$AƆ$Ɲ$4ƅ$Ƒ$5ƅ$Ƌ$6+9cZ015AƆ$BƆ$CƆ$DƆ$EƆ$FƆ$GƆ$HƆ$IƆ#6ƅ$AƆ$BƆ$CƆ$D"
  , "Ɔ$EƆ$FƆ$GƆ$HcAAʁ#6ƈ$7AƇ%BƇ$8+24c=13430=k9JO&*c!mGc&S*T ;oRST)Te!pUeoRpFe!p^wNlCcBEG& SEGM>]!pFĒ44Ģ$;OL壌39cA010"
  , "#A堖$5cA026AƆ#剒$A039A墨$墧(1Ɛ$2+3墔*ƅ$Ƌ%BƆ#7+1ǘ#66AƆ$BƆ$CƆ#7+3ǋ#97AƆ#8ƅ$Ƌ$9cA100ƅ$AƆ#1ƅ$Ƌ$2ƅ$Ƌ$3ƅ#4ƅ$AƆ$BƆ$CƆ#5ƅ$A"
  , "Ɔ$Ɨ$6ƅ#7ƅ$AƆ$BƆ$ƭ$8+ǖ#10AƆ$BƆ#1+4Ƈ#5Ɠ$6+ȑ#2ƍ$2ƍ%3ƍ$36+66cA202AƆ$BƆ#3+4Ƈ#7Ɠ$8ƅ#9ƅ$#A210+5Ƈ#5ƍ$6ƅ$Ƌ$7+10cA22ƶ$28"
  , "+3ƴ#6Ǝ$68+21cA28ǂ$90ǟ$94ƍ$5ƍ%9#A300+9Ƈ#ƍ$10˶$32Ǝ$30ƅ#1ƅ#2AƆ$BƆ$CƆ#3+3Ƈ#6AƆ$BƆ$ƙ$7+22cA35ǃ$6Ǹ$364ƍ$5ƴ$68ƍ$9+Ƨ#7"
  , "1AƆ#2ȅ$8ƍ$82ƅ#3lFm8RIƋ$Ɩ$4+Ƙ$6ƍ$7ʑ#393k0Ƈ#4偶$410 傿%LOGOGĳkRĜƘ#ApFƠ#1ʡ$450AƆ#1+6Ƈ#7ƍ$ʼ%501+29Ē68ĢBAMUMkBPHASE-A"
  , " NGKUE MFONdGBIEE Ɗ#PONƓ$ PIPAEMƙ$fƌ%B_NAAƱ%.U>.UETdTITƕ&!NZ_.&DAlDNJIǎ#Ɖ$ǎ+gǎ(MƇ#Ɣ#,TU Mǣ&G$GUƜ$VEUXdM$SUA,Ǝ#"
  , "A>GAMdSEUNYAMdNTOQP>dKEUKEUTND_NK&D[SUUdɟ#>ZEUMdLAPAQdLET KUTdNTAP MFAȁ$KEUPdPA.A,GHEUA*A,PAM.A,ń NGGƗ#TdNZUN "
  , "MEUTdU YUQ NƳ(Ɔ%Ǚ%NTA_SIS_MGBAS_MEUNJOMNDEUQdMOOMPUQdKAF_lDLE*AEW_!ND_PETɹ$KP>dNIK_PUPdTUAEPdLƆ$SONJAMdTEUTEUW"
  , ">dMA>Y[KȠ#DAAȭ(KUOǮ$Ȱ$.ʅ#OMMA,FIR[ROMdKPOQdSƦ#AP PIEETd.IRɈ&d.OQ N.UT YUMdNYIT MķKǠ#QdPAAƫ$Kƈ%UNKNOWNdNGGȕ%S["
  , "Ȫ$MB$Y[NYETȶ#A>dSOTƿ#MdN.IEEɲ$dɅ$AQdN._VE,LUdN>dNAQǄ#Qc傶%B 偶%倱'倾%Sƅ$ET TUɧ# NTEUǻ$Ƥ#LE,KIEEMdYEURA,MBȴ%KAMdPEE"
  , ".[YAFU 侍(o8ɸ%健&IEE .Eˑ#NDU NJAA俸$Ƅ#Ȼ#PIȏ$NȆ$.ETƣ#Qd.ʪ$TUd児$Tʸ%MBIT Ȃ#KETɵ#Ȭ&KEUPUQǗ&>Ɛ#YEUXdLA$A,P)UMdVƪ#NGK&D"
  , "I MVOP˯$U MBUdW俶$SAKEUA,TA˻#EUQƢ#UOQem6dMFIYȗ#U,MBEUR[MOɝ#>dNYAEMA,PŃƺ&T ǜ#ETdFȇ#MBɾ#FE,Kɴ%lONJEUA>AeNJUQ_LET"
  , "Ǭ#俗%>dlOdKIǿ#OM侻&C剱%凨(Z_YUMdWAƗ#OQ倻&NDEUA*EEɩ#Aʒ#)AȲ$EKȏ#GBAYIʹ#R MKP)AQ MEUNdNTU ˜#ɜ$MdPIRɚ%DOʞ#˱# CABBAGE-TR"
  , "Ɉ%.ǫ#Pǣ#PƐ#ǯ#pNMUOMA,NZ偃%U,NSɪ$dǟ$Y˕#ǹ%dKA_Sʟ#NDIDA˵#.A,NJUEQ北%YU,SUAʜ%UA>偔%VƵ$$S$AQdlOKɴ$[NTAAƪ$ONdLAPdMBɇ%剋&"
  , "QdNTEŃBA刁&Xƭ$MdFUEʹ$TdNS_N.AQdBŃdVɢ$ȼ$*A,RUdNJAEMdo8ȡ#ɿ$NSUOT NGOMdNJEEE,KȰ&凈%ʅ#Ƴ#LUdKUT凖%Ʈ$WUPƧ$EEǸ#ƿ#T>dKUOP"
  , " 列&ǜ#NdNDAMdlO儠%YAAƑ#Pd.ʦ#SETFO˛#[倘%刱&侠$偺%Ɔ#K凐&A PICȟ#YUWOQdNJƣ$IE,MUA,.IQdK> LAWeF;IGU,NGAQd˨#LIQdP&dP>dTET傗&"
  , "D MBUOdWAPdNJI冬$Ɖ#E,LIE,NJ˗$.EE僠&A,NYAɿ#A>呦$Nd.傱&P儡%T傔$Tƻ#S吜&Jɴ#U,Ⱦ$AEMMAEʬ#MdSAPdMFǦ$Dɏ$<E*[Mƾ$制%Y>d共%Mǡ#OTȵ#"
  , "A,厏$R[TUdGHAAƐ#YE,FEUFȇ#Ǔ$,MGBOFUMdLE俱%DONdńIƙ#Ȩ#PUUTd卋%ʀ#dLUMd侮$P˴#_KWAET參.侃&侚%RȘ#TEEE,吡(MȂ$ǈ%Td啧%IPdPEUT˂$UE"
  , "刴+MFIˡ%WA>dYʘ#PAPƉ#P偀%匧%SUʶ$Nƪ#僿%K嘾%OTd˳$KUQdNSUMȩ#唝%Jǥ&PdL匿%Gǝ#N.UT冪&GHEǗ%dR>oZdTA,TOQdNY[RI[Lə$MƆ%噛$o1d.I[."
  , "ȅ#˳$NUd.Uȧ#,PE,N[.OQdPUQd厫$LOQdR> MU~dT[NTUU˟$k4dSAQdFAA傒&E 儡$TO儙$囀&dVOMdLƓ#PA_SOMdR售%ʢ%UNdP叹%Mʕ#_KPț#WUOdSE,"
  , "嘗&啸%ǚ#dKUȔ#ʊ%˻%OPʰ#ƿ$˛%OǠ%,RIMGBA兮%ɝ#MdS动&RA,Ɯ#˄$X俽'M剥%L[MAPȵ#Tȁ#ˀ$NDIQdTA> 俑&Ȕ#UM嚼$ SOFTNESS匭&.AE匰%YIEEǣ$NdTU"
  , "A,YEUA,POdTUMA,KƏ$SUA>d啧&VƓ$W啃&MdPUdTA呏$凂&GEUR冟)QɆ#E˯$,NZ˚#KOMdGBETǤ#dKU冶$P喲$CLEAV*dYIT僦$Qɖ#AQdPIEEQdYUEQdLʇ%F"
  , "U,GBʚ&UP凼$Ǿ%KAAMIɓ#TdoOdNTUM儚$ɚ#M侮'ǭ#s6dNZUQdPOON勩%Fȋ#NA,MU墀',FU [MV[PUAQǭ#ȴ$Tȓ#T埏%YE咇(PdlDPEOPLƸ$C<LdF叽%,A僺$O"
  , "d[LAQƨ#LUR<dTA_TAQ侧%MY HOUS卯&Yɟ%UA,YUA>dYOQ SWIMM&GeCOʪ$Uʘ#NdK偁%UXǭ$ EPO~dPU,WU,FEE培'M[RƦ#Rʬ$ȹ$mOd.Od.OQȶ#REME"
  , "DYdlJdoN兛$KOdM噷%MAQdTEUdK[ńdm,F俹$嚉(FlBdUdKUdo[RE,T˫$[l[RI[RI凮'ɷ#ɳ$唵%函%出&[S凼%唰'UA,NUdNJʊ$OQd.UdlNdN.Aɴ&TEɪ%PE喊%"
  , "ɦ&K呇%WAƈ$G_.O凎$侗$m1dLIɣ(B>dRɨ&O厞%TETdKP_SAMB_VUEQĒ6A40=MROkBlRcNG?Y:MIMcl3clQc#qXcKHA?HA:DA?~^KEAA%OLcMAEMcN&c"
  , "lDcn8c:R:.?|E#E#m1c%K:L$cl?HA?R?TEKbǹ#60=lSl4ckJck?kLckNckQckYck4ck0ck5Ƨ%E=t1b!kMaT$GSAkBOZcOCcOQcOXcAZcACcAQc"
  , "AXcVZcVCcVQcVXcEZcECcEQcEXcIZcICcIQcIXcUZcUCcUQcUXcAWZcAWCcAWQcAWXcUIZcUICcUIQcUIXckTNGcmPUEXcn6UEZdƥ$ECcUEZcU"
  , "EQcUEƵ#UZƅ#Cƅ#Qƅ#XcMZcMCcMQcMXclBcm3clYcm:l]lNcm1ʱ#m2cnK˨$:lJclAʣ$T#lR˻#lFcNH#mRcmWcpZcnZcHTT#nCcX#o:n0cm0cn1"
  , "ʥ$Cˌ@aƧ#D0=BASSA VAHkB>N[lBdS,oOdMB,YI,GAHdDHI[KPAHdJOdHWAHdm1dZOdGBUdDOdC,UWUdk1dl3dVUdYE&dlDdWADD__Odn8dUdo["
  , ",?ǹ#F0=oTmNoYd!l1d!MIDd!ņ-Ɗ%HIGH-ņcpRnYĒ6BĢPAHAWH HMķlMKEEBdKEEVdKIBdKIVdKAUBƅ#VdKƉ#ƈ#ƣ$ƚ#Iƚ#Ƥ#OOBƅ#Ɣ#WBƅ#Ʈ#AB"
  , "ƅ#VdKƝ$ǒ#AǓ#ƒ#Ɖ#ƈ#ƭ#WƐ#Ƒ$AVcrFVAUdNTSAUdLAUdHƎ#Ɖ#RƉ#KAUdQƓ#Yƛ#Ɨ#MAUdCƥ$~Ɣ#NAUdPLHǄ$Ɔ#Ɛ#mTdXƧ#A^kRCIM TUBeSOeKE"
  , "SeKHAVeSUAMeHOMeTAUMckEVOS TƐ$.AB Cʔ#Ƹ#~EEMdƞ%IABeFƏ#XYEEM NTXIVeqKeTOVeFAIBƧ$Sˉ#MEEJ SUAƓ%NRU_IB YAMȖ#Sdȑ$SOV"
  , " ROGc=16B5偧%dkJdk[kLdkNdkQdkYdk4dk0dk5Ƨ%B=m7T>SdHUNDREDSdmEy7dMILLIONSd!nUdmEBƐ'TRƊ&ƿ$63=ɩ%LUBdXYOOdHL[!|IRD-S"
  , "TAG,ZWJ |AJdHNUBdNQIGdXIABdNTUJdAVdTXHɜ#Cɦ(TSʫ#tCdLOSdMɝ&HAIǦ#S NTOGƅ$eCUAM T.OOJeTXWVf~WVePUB DAWBeNRES TOȩ%7"
  , "D=CL$kETSǮ#eYEEGeLISeLAUJeXYǄ#KOOeHAWJeMUASe|Ǘ#SABePHABeKƅ#HAMeVAJeFAJeYAƟ#WBeKWMeVWJĒ6E40=MEDEFAIDR&ĨMdSdVdWd"
  , ";IUdZdKPdPdTdGdFd[Kd_Jd,BdCdUdpNdLdQdHPdNYdXdDdp[NdRdOdm[YħǍj収?m7m%vGcuZcxQcxRcw7cwPcxKcw2cxSblSkJsAoLĜkIĜkLbo"
  , "4bpRnYblGAIVAbq7OHĒ6FĢMIAOkBlDcl3cYIlDcPL#l:MH#s4l:o:nMcVF卒'YInRdlRcnRcn]lJcNHAƕ#9Ư#Jcn9cNNH#l?LY#LH#LHY#TLH#D"
  , "LH#TƐ$DƆ$lBclYǸ#BcQ#QG#m:NGǼ$m:l#X#nZcGHH#TSS#DZZ#m2cNYH#t9cDZǿ$t9dƊ$REFORMEDt9cmRcoMcrJcZ.#pZcDZ#YIpZcl]n1cZS"
  , "#ZZ#ZZS#s4Ƌ%YƐ$Y#m1cAHcHH#BR?SY?DZY?T%TS%RTEbˁ#4F=kErFp0mHğNAS<IZģĩASPIRģȗ( VOIC&GdƜ)blMkE_mBdAHHd$d$G叻%WOdWd,"
  , "oGdEƓ#EYd[I_I$dI$GdIOdI,mFdIUd&GdUdU_U$dU$GdmSdUE[ŃdYdY[A,AE,*Rd!wOdEƈ&m[E[mTdOUdNdǇ#OGdYU[OGdO*dVWdIGdE_IOƝ#I"
  , "ɸ$8F=oYkGc!oRckKckVğx9+6ɪ)TONE-1dx9dƊ$4+2Ɖ%8aǁ#E0=T$GUTyKkRĕNU.U@oZ~&ESElLc!yKaKHIT$kCrXyCƺ$F0=VIETNAMESEs)EAD"
  , "&GkRmWeNHAYĒ880Ǟ' COMPON>T-濂$67ĒAǄ#vZkBM&N$x9+3dƖ$5=Ȣ$7ȩ&d俐&ɍ(+4eƨ$Dƨ&eƨ%c=1B0Ģs4EazJkBs4YEaH>TAIG$AkBA-1+2cA-"
  , "W:I-1+3cUǌ#cE-2+4cOƝ$KƤ#8Ƈ$0Ɔ$1Ɔ#K%KƲ#7cKƳ#6cKȆ#5cKƵ&O-K?SAƢ$SIƛ$SUƎ%Eǣ$SOƷ$TAǷ$TIƎ%UƎ%U-T:TEǹ$TOƾ#Ƈ#R#Nȍ%NƯ$"
  , "Ƈ#T%NUǳ$Nȁ$Ƈ#K:NOǥ$HƯ%Hȼ$Hȼ$Hƻ%HƵ%HEƎ%Oț$MAƎ$MIƇ%ȍ%ME-1ƅ#2ƅ#M#MȐ%YAǢ#Ƈ#Y:Yƫ%Yƛ%Rɔ%RǇ%RUƕ%Eƕ%ƣ%Wƾ%WIƇ%Ɯ%WOɖ%-MU"
  , "-Ǧ#Ɗ(2侽&WUavZƉ#Y[Y,WUĒB150=Ɵ#kCW[W,WOƖ$64=vZƖ+dNĒBCĢDUPLOY$kBHcXcPc]FcKcLcBcDcVcGcRcP NcD ScF NcK McR Sc|cSLO$"
  , " DHc!cKKƏ&JcHLcLHcRHcMcNcJcScM NcN Mc!JcS JcM(kOĜNĜJelXuIkFkKcS(kOfkVcM Sc!Nư$!Sc!ǂ#!Ǆ$2Jc!ǆ#J Ʊ$dNeScS TeRdPe"
  , "RcT Sd!RcWcWHcW RcS NdMcK R SĜGcS KeRcAȮ&OWcO#:AO^?%I%n6?U?oIƣ&EHcROM$I$ Ɣ&o?mP?Y%^E^XWcU NcmP^!Ƭ'cUʡ'^OOHcǪ#^"
  , "m1cW:W?WE?WOWcNAS< UdOd[#P*N& $dAMǫ&Gd$dpBcnDMĠBC70=AFFIXkHmGSEC$TĜMIDĜkGc!l1k9ƒ(mNc!z,!zSdT$G>Tdo5dElLd![!ƕ%]"
  , "Ǜ#ĹmNn[!TIGHTdnXd!mPdkOdl8dnJdsGdk9ƫ$90=l1ƫ@dkPbƮ$C=kEO(p5b|ICKkBSELECTORbkMkRbpS~&OOK娍$.OR|$D FORM;kBOV*LAPc!"
  , "ŁT&Uĺk7STEPc!kZ" ]

end CommandLine.Text
