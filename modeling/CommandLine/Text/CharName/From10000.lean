/-!
# Names of characters from 10000 to 12FFF

The names in order of the code points, in the written form of `CharName`.
-/

namespace CommandLine.Text

def namesFrom10000 : List String :=
  [ "Ē00ĢL&E) Bs2B008 _B038 ,B028 [B061 OdB010 UdB001lQdB045 DEƏ#7 DIƞ#4 DƦ#51 DUƈ#7mUƧ#6 J,Ǫ$D=B036 JOǓ#5 JƟ#77lB"
  , "Ʀ#4 KEƗ#7 KIƗ#0 KƧ#81 KUƈ#0lȂ$3 MEƟ#3 MǴ$5 MOȨ#3o1ȋ#6lJƎ#4 NEɅ#0 NIȊ#2o0Ƈ#5 Nɀ$3lDǄ#2oHƥ#9oNǊ#1 PȾ$0 PUƐ#6 QA"
  , "Ʀ#8 Qʊ$1 QIƯ#2 QOɏ$28=B060lFƞ#7 REƾ#3 RIǣ#2 RȘ$6 RUƶ#1lTƗ#9 SEɮ#1 Sȿ$2 Sǵ$8 Sʳ$9lRƧ#4 Tɀ$7 Tǎ$5k1ʜ#9 TƦ$4m1Ț#5"
  , " WǍ$0 WIƈ#2 WȚ%3C=B017nƦ$4 ZEƖ%F=B020 Zș$5 A2Ƶ#3 A3ˠ#5mTƮ#1 DǕ$90 DWOơ#8 NWAƲ#9 PU2ȇ#2 Pȟ$76 Rǅ$33 Rǆ$68 ROƤ$6"
  , " Tƛ$87 TǑ%1k?ȇ#50=lGB018ʀ#9Ǚ#ǃ$4Ǭ#7ƅ#9ɣ#6ǅ#Ǔ$4Ǫ#9ǋ#ǐ$ȭ$6ƅ#9Ǐ$ĹIDEOGĳ B100r8ĵ0ʋ#M$ĵ04 DE*ĵ05 EQUIDƋ$F M)EƋ$M ST"
  , "<LIOƯ$6F EWEƊ$M ĳĵ07F .E-GO;Ə$M Ǝ*8F SOWƊ$M BOAǫ$9F Cƕ%9M BULLĵ20 WHE;ĵ21 B)LEYĵ22 OLIVEĵ23 SPICƋ$5 CYP*USczHB"
  , "127 KAPOĵ28 K$AK:ɷ*30 OILĵ31 W&Eĵ32ƹ$33 )EPAĵ35 M*IƸ+40 BļZEĵ41 GOLDĵ42ĵ45 WOOLĵ46ĵ50ĵ51rOĵ52+ǝ%56 łO2Ǔ+57ĵ58ĵ"
  , "59 CLO|ĵ60ĵ61ĵ62 G)M>Tĵ63 )MOURĵ64+8ĵ73 ń|ĵ74ĵ76 TREEĵ77ơ$89ĵ90ĵ91 HELMETdB220 FOOTSTȳ$225 BA|TUBdB230 SPE)Ƌ#1"
  , "kPƇ#2ƅ#3 SWORDƋ#4ƅ#6dB24侤$ELĪ~)IOTd!B241Ɯ#2Ɣ' FĳEƓ#3Ư%Ƌ#5ƅ#6ʘ#247 DIPTEʘ*248Ơ#9dB251+2Ƈ#4 D)TƊ#5+4dVESSELˁ#5eB"
  , "200+19eB221ƅ#2ƅ#6+3eB250eB305Ē01ĢAEGE$t8qHnJdkObwDkRbƜ$7=m7kJck?kLckNckQckYck4ck0ck5cm%oKcrHcs^pQcs9cs5ctZcs%k"
  , "Jn^!k?!kLc!kNc!kQc!kYc!k4c!k0c!k5ckJp9ƭH!m%!oKc!rHc!s^!pQc!s9c!s5c!tZc!sEɆ$37=WEIGHT BASE UNI]FIRST SUBƎ$!SEŁD"
  , "c!wCc!FOUR|b!DRY MEASURE Ƴ$ĞLIQUIDb!ƙ'Ƽ*asSACROPHONIC ;TICkJqAel9eDRA~M_kQdpQdkQnUep9d!ƍ$T<>TSd!mEƔ%!˂#Ĳkƌ%p9"
  , "ƌ$eST;*ƪ@mEĲpQdmEMNAScH*AEUMkJPLE|ļczKkJc!H*MIONI$cEPIDAURE$k?!zKcCYR>AICkIȽ&SĜƧ)cTROEZ>I$kǪ#esAoLcǒ)m%!MESS>I"
  , "$Ǔ$drHƶ*pQƳ/pQƧ%ɒ$倌&Ș*QĜƿ)ĜzKĜC)YSTƑ%NAXIAɞ%˞$kQcDELPHICkQʊ$!STR;Ǭ$bkJl9kȸ%bkIxBkEb!kLvBb!YE)b!T<>Tb!ʃ&b!OBOLb"
  , "!kIƉ#SĖkLĖkNĖkQb!METRETESb!KYA|OS偹$b!LITRǂ$UNKIAb!XESƩ%)TABEb!)OUƤ$Gĳǯ$TRYBLIONǅ'l4b!kJqAb!S&USOIDb!&DICī@NOMI"
  , "SMAĒ0190=!ROM$ SEXT$Sb!UNCIǀ$EMƋ)XTULAĖDIMIDIǟ%LIQUAb!D>)IUSb!QUIƌ(SEST*Tƍ%DUPONDƌ%ASb!C>łI<aASCIAlGȑ$A0=sSlGt"
  , "CqKƐ$D0=PHAISTOS DISCkEPEDESTRI$dPLUMEDt4d!T;TOOEDdCAPTIV,~ILDd喣%叄&GAUNTLETdTI)_kPdBOWd.IELDdCLUBdM$ACLESdM;TO"
  , "CKdSAWdLIDdBOOM*$GdC)P>TRY PL$,DOLIUMdCOMBdSLIƢ#OLUMNdBEEHIV,.IPdrOdHID,BULLS LEGdC;dĳdEAGL,DOV,TUNNYdBE,Ǜ$咖%V"
  , "&,PAPYRUSdROSETT,LILYdOX BACKdFLUT,GR;*dSTRA&*dkCAX,WAVY B$DdoTOBLIQUEl˙$2ĹLYCI$kB#%BcBHcGcDc?WcZc|cJcKcQcLcMc"
  , "NcMMcNNc^PcKKcRcSc]T]$coGcHcXǑ$A0=C)Ǒ&P2cDcLcUU^RcLDcA2cQcBcMc:D2c].c.2cScC-18cUǞ#XcNcTT2cPcSSc?Eƽ#^KcK2cNDcmS"
  , "cGcG2cS]ST2cNGcmFcC-39cTTƪ#2coScMBcMB2+2cLD2cE2Ƙ#3Ȝ$E0=uHEPACTy7kRclSkJdk[kLdkNdkQdkYdk4dk0dk5cm7m,oKdrHdsUdpQ"
  , "ds9ds5dtZdsE剻([!kLd!kNd!卜%Yd!k4d!k0d!k5Ē03ĢoZv8kB_B,K,D,,V,Z,oWdp_[lBdELdEMdoGdE.dOdoHdpHdKUd*dESdT,UdEKSdPH,K"
  , "H,EFd*SdsXdmFdmSdESScw5kJɌ#m,pQcǼ#2D=kBY,NOR|*N TS,!SOU|*NaGO|ICkBAHS#BAIRK$cGIB#DAGScAIHVUScQAIR|R#IUJ#HAGLc|"
  , "IU|cEIScKUSM#LAGUScM$N#NAU|ScJ*cURUScPǀ's%RAID#SAUILcTEIWScW&J#FAIH^IGGWScHWAIRcO|<ck5nUˇ$5ˇ#P*MȰ#$dBURdGA[DO["
  , ",ZHO[DƆ$Z;_DZIT_[KOK,LE[M>O,N>O,VOO[PEE[RE[SI[TA[Ud~*Yd.OO[.Cƈ$YRYdY*UdOdn8˶#l_TSIUdV*dY*dY*[Y;dI,pNdlNdIAaoT"
  , "Ȭ+eDOIeZ;AeȀ$eSIIɓ$ĹUG)ITƧ#<P#sVcGAML#m3cr0cH:W:u1cHOT#TE]YODcqFcp6cuLctDcDH<coFcZ^SAMK#pVcP^SAD%QOP#RA.#|$N#s"
  , "8ck1c?^SSUbȃ#9F=t8DIVID*aȴ$SI$kE_[UdlBdKUdlYdGUdX_mWdmUdJ[lRdTUdlQdD[DUdnCdlDdl3doOdlJdNUdlOdM[o1ʏ#nMdV[lFdRUd"
  , "l[lTdn1dmRdoMdl_ȅ#C8=AUĳAZDA_Ƌ)-2ƍ*H_X.AAYA|IY_DAHYAAU.Ɗ)-2dBAG_BUUMI.cɚ(cm7凯%凘%偒%4ĢDES*ETĨmPIeEeAeAHeOen8dn6"
  , "Ɛ-AYdOWdWUdYE,HdPE,BE,TE,DE,~E,JE,KAYdGAYdEFdVE,E|d|E,ESdZE,E.dZHE,*凳)>GdO[EWħȊGȊ~a.AVI$kBPEEPcTO]KICKcFE%|IGH"
  , "cS:SUR%~UR~cYE#HŃcBIBcDEADcGAGcVOWc|EYcZO:夑%%JUDG%WO%HA-H#LOLLcMIM%IFcEGGcpWcAD:pBcWOOLcOU]AHcRO)coFcEA]AG%IC%"
  , "kZcOAKcOOZ%OILcAW%)%m8cAIRc*Rc)RAYcE)cI$cYEWaOSM$YAkBlPcl3clRcm^X#m3cDEELclFcl].I&cn0cCAYNclYco:QAAFcKƅ#LA$cMI"
  , "&cNUUNco7cl#lNc#%?:^mBco?n8Ġ04A0=lSl4c嬭9aƧ#B0=OSAGEĨ_m[pVdAHdBR_m0dEH~_,E&dl_HY吻'HK_KY_l[l冃$OdO&dlDdEHP_lTdmRd"
  , "lRdEHT_pZƈ#S_t9dn0dUdm1dm3dnZdn1drJȯ$D8=kCȃ9ȃ~Ē05ĢELBAS$kB#B%C%sXcD%ND%DH%E?%F%G%GJ%oWc?J%K%L%LL%M%N%lJcNJ%:oH"
  , "cQ%R%RR%S%pHcT%p#^V%X%YcZ%ZH%GH%GHAMM#KHEȏ$30=CAUCASI$ <B$I$kB<TdBETdGIMdD;dEBdZ)LdEYNdZHILdTASʸ#YOWDdrJdIRBʉ#"
  , "L$d&Y_XƩ#DY$dC)dJHOXdK)dLYITdHEYTdQAYdAORd~OYdq6dCYAYdMAQdQ)dNOWCdDZƓ#.AKdJAYNdpBdTƒ#FAMdDZAYd~;dP>dGHEYSdR;dS"
  , "EYKdVEYZdTIWRdSǝ#IWNǞ#WdCǆ#YAYDdPƝ#KIWcʂ#6F=CITģkRaVI|KUQIĨ_BB,B,C,sXdD,DH,E[,F,lYdƿ#7C=l_HH_[IJ,J,lBdl[q,M,N,"
  , "NJE囹%Q_REƵ$8C=S,pHdT,p_UdV,Xƛ%94=YdZEbƌ$7=kCȈFA3ȈRB3Ȉ8BBȈ$Ē06擦)AkEAB001+10dAB013Ɔ$6Ɔ$7Ɔ#20Ɔ$1Ɔ%FƇ%MƇ$2Ɔ%FƇ%Ɣ%3"
  , "Ɔ%ƍ%4Ɔ$6+2dA028BƎ$9+Ʒ$34Ɔ$7+ƈ$44+ǭ$53+8ƈ#65Ʀ%69Ɔ#70Ɔ$3Ɔ$4Ɔ$6+ȣ$8ƨ$100-10Ʊ#118Ɔ#ȴ#120Bƌ$Ƙ$Ș$131AƇ%BdA131Cƍ#64Ɔ#"
  , "71Ɔ#80Ɔ$Ǆ$91dA301+7Ƈ#9AƆ$BƆ$CdA310+2Ƈ#3AƆ$BƆ$ƙ$4+57dA400-VASƉ#1Ɖ'2Ɖ'3Ɖ'4Ɖ'5Ɖ'6Ɖ'7Ɖ'8Ɖ'9Ɖ&10Ɖ'1Ɖ'2Ɖ'3Ɖ'4Ɖ'5Ɖ'6"
  , "Ɖ'7Ɖ'ǚ&501+5Ƈ#8Ƈ$1ƅ$6dA520ƅ#1ƅ#3+9dA534+8dA545ƅ#7+1Ơ#5ƙ#63+3Ƈ#8+Ư$9ƅ$2ƅ#4+Ƈ$8dA600+4Ƈ#6ƅ#8+1ƈ#26ƹ#634ƅ#7ƅ#ƪ#40"
  , "ƅ#2Ư$4Ƒ$9dA651+13d=10740=A701 _A702 BƇ#3 DƇ#4 EƇ#5 FƇ#6 HƇ#7 JƇ#8 KƇ#9 LƇ$-2 L2Ɗ%3 L3Ɗ%4 L4Ɗ%6 L6dA710 WƇ#1 X"
  , "Ƈ#2 YƇ#3pLƇ#4 ABBƉ#5 ƈ%7 Dȇ#26 EYYƪ#32柯&760=A800+7aƎ#Ĺp0kBkCkDmBcvVwHqRĲl9ckCA,kDBdB(lLdƭ$7=DZrNf(qMlLgt_DEZHr"
  , "NdD(o5flLgkFo5dmX,!p3mXmVdF>GrNdĳSrOdkDGdG(lLĻkDdH(lKdkDHdH>Ƙ%!uGJ(lKkFdLSrNd!LZdL(BELTƶ%!LȂ%ƣ#EZHeƎ%dmCYfƨ&O"
  , "Ǚ&p[pʤ#QdmCR(mPLEGikFƯ$Rȵ$zCdkDRdTCrN(t_TSɡ(dTESɞ#TƏ&!V(kGʋ$B2=kDYcrMnY(lKc/4mXcBILABI< CLICKc!D>T<c!L;*<c!<VE"
  , "OL)cqMƦ$ǜ%ckCS(tAĒ08ĢCYPRIOTs2圞*^Ɲ$8=JOƊ%A=lBcK%K?K:K^l?L%L?L:L^l:M%M?M:o1嗗$%N?o0cN^lDcoHcoNcP:P^lFcR%R?R:R^l]"
  , "S%S?S:S^lRcT%T?k1cT^m1cW%W?Wȋ%37=X#XEƍ%C=n1Ɗ%F=ZOaIMP*I< AĳAICkBuRdt5dtQdwXdoWdo7duMdt6dTE|duTdt7duKdtDdoFdtMd"
  , "AY&doHduNdQOPHdu2dp6dTAWǥ$57=sNkE媲(kL媵&kJ搒'mEaP<MYR>EǾ#ct5ctQcwXcoWco7cuMct6cTE|cu]t7cuKctDckToFc!ctMcAY&ʯ#uNc"
  , "ȃ#cu2cp6cTAWbsYFLEUļb!rTb旞/旒%aNAB;AE$kBkTuRc!ckTt5c!ȉ%Ǭ#Wc!Ȏ.kTuTƬ&7ƈ%uKƐ&Dc!Ȣ>kTp6c!ȧ$ʪ#A晽.ĖCRUCIFORMbm7ȭ'ckJ"
  , "寰%8E0=H;R$ʵ*D<E|-RE.ʾ&ZAYNˀ4oFș%Ș,ǘ#F4=p6ȗ(FBȗ%Ȁ-PHO>IC場&FcBET巪$cDELTǺ#WA^ZA?HET巩+LAMDǽ&SEMKcpVcoH巟'FcRO.cp6ct"
  , "Cbǵ#ǲ*ʗ%Ġ091F=t8qHaLYDI奎&懨$%Vc?YcK懣&:RcSSc]^FcQcS懡)LYcNNcCǎ$3F=wHkRaƌ#ĹM*OITIC HI*OGLYP恑$_,[OdlNdm1dl3dBA-2dlD"
  , "娝&NƎ#N,NE-2帛$ƞ$[m3dHH_lTdSƒ#S,lBdQA幱$Ƒ#T,TƳ#k1dlQclGVIDJdƅ#-2bCURSIVEǼ1Ƿ*,lFǨ-!s4Ǩ-EǞ&ɡ#BC=sBvGTWELF|SdkJl9cLO"
  , "G楰%RMTdIMNcm7才9d手4ǜ#D2=扌KdkJp9ƭG柿'oKd!rHd!sU栎's9d!s5d!tZd!sE栢*IĲkLĲkN栱&2kYĲk4Ĳk0Ĳk5csBkJʒ&dkIʜ'ȖGaKH)O.|IkBAbl"
  , "MkE[UdnDRʖ#A05=,:Ƌ$C=v5kRĩkMmMkVcn2cpDğlBcm3clYcnZƩ$15=mWcm0cmUƐ%9=m2cnRco%n]oPcn9clRcnCclQcn0clJclDcnKcl3co#l"
  , ":lN巶$?nMcmRcoMcl]n1cl#KK#TT|Ɔ$#VHAbǥ#38=kEmHkKcCAUD#kOkVƙ%F=oVblS力+m7冚)dp9b˃#l9Ư$50=pSk:kCl8c!czGmHcM$G<AMcLOT"
  , "USct1c!kMcL&ESaƶ#60=oZoC)ABI$kBoWeuKet6etDeQOPHeo7ep6eu2et5eTAWeS;et7eoFeKHE|euNetMeFEelPeAYNeDHADHEetQewXeGH"
  , "Ɠ#TE|eZƝ%<Ƶ$Te|AWe|E|dm7kJepQdNUM*ICxIbn3ȑ(qGeo8el2ek6eqTȏ#ES-2eqYer6esHƎ#1eqFeo6enLerEƑ#3erDȐ#pVesIeGEEMeD<es"
  , "8eqSet3e|<elUevPeZAȀ&mEeoKʓ$C0=M$I~AE口)BHE|ctQcGHIMEL唥(ĩUDğuMcZHAY&cJƆ%ƍ#吀/XAPHcKHƆ#uKcDHAMEDHcTƈ%君+&cA咺'FE吥(X"
  , "ƅ#QH啪)S.&啰%KkRkKd倻&E吼3bpSrQc喗&ckMkOWI|&k:/3dckIlXcnJyCĒ0BĢAVEST$kB#mBcA:AA:$cA$cA%AE%%o?:n8c?mFc^mScK%X%XY%XV%"
  , "G%GG%GH%C%JE弪&彺&TTEɣ&B%BH%NG%NGY%NGV%N%NY%NN%M%HM%YY%Y%V%R%L%S%Z%pHcZH%.Y%S.%oWbɅ#39=ʘ#aT&Yɟ#lHkJkOpSa/6kCa/6m"
  , "6b!Ɠ#lHƟ#b!kIR&GSƩ#mMb!Ƈ#lHƖ&a&SCRIPī< P)|I$垹mB58=合,垷-bPAHLAVIǵ0WAW-AY&-RE.Ȁ4MEM-ǰ#Ȇ%ȁ%ǹ+7ǹ<aPS<T* ȁJǼI99=sNkR"
  , "ĜmCckNlX(p5fkOƝ$A9ș8Ē0CĢoZłKICkBp4_!qCeA,p4Iƌ%,p4OepƎ%dp4ABƊ(EƋ)Gƕ)Ƌ)Dƕ)DeEZƎ(YƘ)Ƌ*KƋ'OƋ)<Ơ)LeELTeEMe$eA>ƙ'>T"
  , "Ƌ)CƋ)Yɋ%$GƏ$GdqCAEƍ%PeOPeICeECǞ(QƊ'IQȇ(Ɗ()Ȇ(*eASeAESepWǬ(.Ơ';ƪ)Tǉ(TeBA.b˰#ĹHŃ)I$ĨAemBeEBeAMBeECe>Ȗ#SeEDekFeEe!"
  , "CLOSEeoIeEFeEGeEGYeEHeIemFeEJeEKeAKeUNKeʟ$Yʟ#oGe>Y暧$eNIKOLSBURGpIe!RUDIM>TAeOEEeEPeEMPe*e!n6eESeESZeETe>TeETYe"
  , "E~eUemSǇ* UEǈ,EVeEZeEZSe>T-.APEDkEeUScɮ#C0=kCɥAɥ~ɥ~FA=m7毵*凶(H$IFI ROH&GYAkBA変'RdnRdmUdmWdl_m榵%QdnTdlFdr7dn1断'B"
  , "dlY旐)m1d!K&N_lNƋ(mOdm2dnMclM_[Ud,:kRSAK&dlJKHONN#kEH)BAHAYdTAH<_T$_TASSIɈ#D3期%d奈9Ē0E60=RUMIlS杇9bm7瑶f垥&dq_wCckI"
  , "xBȄ$ĹYEZIDIkBELIFcB%oHcPH%p#S%CIMc~ƅ$Ɔ#HH#X#D<cZ<庘$H#n1cm^S&cp6cr%s?lRcZ%EYNcXHƆ#o:nMd猀$q]qFcKHAFcGAFco8cMIMco"
  , "FcUMco7cOWcEWcHAYcYO]ETbȧ#AB=oTpMkRc!MADDAb!HYPH>ģƤ$B0=kBo8(kOkKc!YOT(nNĒ0FĢoZSOGD唪'!kTdt5ƈ&QdoWƋ$唶(唱.Ɲ$f(k9o5"
  , "唽(!sA呅%Ɵ,RE.咄%D<E|呢&Ƥ+孤0存)kJn^侬%cqOǇ*Ɉ$30=Ɇ$巶+弨+巣.幼.Ț(张&cFE|cLE.bzVp6boTkOkVc!垆$ˇ#ƌ'!uQdkVclL域$ĜmPc!u2c!lK嶮/bp"
  , "SkIk9B)Sf(lXcl8(k:kICIRCLESƕ%9Ɨ%ə$70=oZUYGHUR嗔'GIMEL-HE|侖&kT侘-嗇+嚿)dLE.cɋ$KekVdɀ#kKfkVcpSmHdkIB)SelXd!kNǼ$B0=~O"
  , "RASM˘'!kC悈/!CURLED˩>恿*恰-忀.FE0=ELYMAIC惶JoF惱=qOZAY&-YODHŀ0ĢBRAHMIkEp7屳%cy3cy4b奒%夳*nDRdoSdLdpJc%m?:m]岞+m:岚(o9c岖dl"
  , "#q%oZTAMIL LLLAer7eNNN嵍%mBd!BH;TIPROLUd[mFdUdmSdnDReoSeLepJd,m[OdmTboVbt1b!kMbpSkO屪%nJ岉$岀%bʘ#52秬W島(洂>ĩɖ&oVğƌ&n"
  , "6EfOɚ$Ƒ)gOƠ)qEȟ$7F=m7JO&*aKAI|俀*侺0侮QDDDH#oPcRHA侸W侠'侒)來)ĩoVcrAbsKkEb!>UM*ģb!m7bsNkRĖkM侭'Ǎ$nDRɾ$CD=m7kEkKŀ0D0=SO"
  , "RA SOMP>GkBSAHdqSdBAHdCA焱$dGAHdMAHdNƉ#LƉ#AHdVAHdPAHdYAHdRAHdl2dKAHdJƟ#Ɣ#AHdEEHdIHdUHdOHdEǄ#%Ǵ#F嗂C11Ģ~AKMA侞,mBc"
  , "?^%KA#KHA#GA#GHA#NGA#CA#~A#JA#JƗ$YA#TTA#T|A#DDƅ$ƛ$NA#TA#ƙ%A#Ɨ%A#PA#PHA#BA#BHA#MA#YYA#YA#RA#LA#WA#SA#HAA˦$A侲3dO"
  , "IbOkRb!兄%MAAǉ#bɦ#36濮?俐$俋(qNkRğLHA値(EIğVAAŀ150=MAHAJ$IkBAʬ&O傼+剧[催'剞'r7ĩ傋&Ȩ%qO.RIŀ1Ĺ.)AD係*匚<匚~qE入5勷5共/tH叜&O兘(ɷ%q"
  , "HbS$DHIkRʍ%lMp0kRb!EXTRAn6lMb!SUTRǱ%PRI.|AM;RA EĩnHp7勲@EKAMĩyWbHEADSTROKEbŁT&Uģ侂$M)K-1cƇ$2ŀ1E1=S&H<As4磋]ep9ŀ2Ģ"
  , "KHOJKI俌(U侺3GGA侾/JJ#ǂ#13捶;DDDA俋/BBA匱0哣)俉-侺,n2coVcr#.ADDA侻(t8qH匪'俊&ĩSUKUNŀ2ĹMULT兇+ɛ)ơ$8=nZƊ%A=ɢ08F=吔.A傭=ƶ$9F=ɥ7r"
  , "7cRHAȲ$ŀ2B0=KHUDAWADI咴/侎I咼2#r7ȫ.侍EmRȫ%˵$哀=r#oVbɇ#F瓭C13ĢGR$|AkEoTn2kKc剒(Ơ$5=剙4Lcƞ$F=o?mIƍ$13=n8剣^ǉ$2A=剪3Ɯ$32=l?"
  , "qEƍ%5=剸-aƖ$B=oTB&DUkVaɝ(r#tH劘7dƸ#47=o[mIƍ%B=n8˔%ˑ%350=OMƊ%7=mTv5kRƎ%D=kEPLUTAğVEDICn2d埀%DoSdpJ嘥&LepJŀ366=oTȘ&"
  , "喯5ɝ$70˺#市$JdV[lDŀ4ĢNEWA叮UNGHA侐/NYHA侕>NHA叼/MH#lN嵋'l?LH#m1吅X姧(r#tHckTn2bOMbSIDDHI剜(o4bGAPyC剖$壋AMo4bPLACEHOLD*侱%4"
  , "5D=&S*īkE呣(侾)ĩ咑$ŀ4ĹTIRHUTA $JIb˹=媁~˟K!n6ˤ$Ɗ$˩%˦(oV˩%bGV$Gˏ%OMʟ$D刹D5ĹyWʍaʍ~dȫ#B8=Eʊ$ʅ4yW堃)Hk:mHbREPETIī 嗷%+2bpF"
  , "lETEXTkR含$k;RID>TkFU戒& ORNAM>TSgqQCRESC>TSe/3RAYSh!kMh!oXdkMmMf(Ɩ#d(kMƫ)!oXe!yNe!SEPTUPLEe幽'FƱ#gkI>CLOSURESg!k"
  , "Nğ|REE-ƨ%sAIĜTWOƐ&emFcsAUĖʢ#emSŀ6ĢMODI便L嵍~刮I侽()DHAC$DRA堹,ĩHUVAbɪ#5僎D660=MķOLI$ BIRGA(vCbsCƌ$bkMƔ(ĞoXb!Ƒ&kMb!Ƨ&"
  , "(eȄ$nHƏ#_(kMvCbSWIRL Ɠ'vCƥ%/5mCŀ6ĹTAKR噬5侁~婭(˗'崞Bğs4m3˪$ˣ$CˣD7ĢAHOM渺'mOȞ$Rc!sAȦ)l:mUɟ#nCȩ&lTɥ#l#Aɕ'Yƴ$ʍ#oAʄ#sAl"
  , "3bǣ#1D=rFkEm9lIelFe!LIG;&Gɗ$_ə.AWə#[AMĩKILL*Ǉ$3ɑ&擡AĩkCsNc!cRULAIblGVIğmW侖/qEŀ8ĢDOGRA俭>兮~r7匰7兩2弓(ɂ%A0=W)$G CITI"
  , "ĨNGAAeAeWIepNelNeYOemFemSeEeOe$GelYeKOe>YeYUJeUCe>NeODDeTTEeNUƢ#Qe;eAMeBUePUeHIYOeHOLƅ#RReH)eSSUUeSIIeVIY:kCǷ5"
  , "Ƿ~彝$審U%ʽ#FF=OMaDIVES AKURUkB傖0=11909=OƉ%C=lBdm3dlYdnZdmO萀$0dmUƟ$15=m2dnRƍ%8=nTdoPdn9桢$C桓$0dlJdlDdnK萝$_l玕$YYA率&"
  , "nM萉'Tdl_q,n1c借%概%U˕%ǣ#37=mIe:ƌ$B=kEn2dp7dH<$T#oVcPREFIXĪNAS<k%m9lNcl6lFc!m9ckEr#kMt1c埉$c啗)Ǖ$5惂D9A0=N$D&AG)哇7c"
  , "ƪ$A=兛/哉~兞;Ȓ#DA=入4tHc広,廓3ŀAĢZ$ABAZ)mę#ƪ#IeUEeUeEepIeOemIemTemX[v5kRckB偆7倿%o,倻FpZdt9dDZ_DZH_rJdn1d-_lN偏5KSS#kTrF"
  , "Ȇ#EoVdp7e(vCĲtYdn2dpDcCLUST*-&ITI<kBlFƔ(F&ƒ$NelFelIenMcl6t4kRĜCLOSĺkRwZd.ADd!kMdmPwZcl6DOUBLE-L&EDƱ%3Ʊ'SUBJO&*"
  , "ŀA50=SOYOMBO甌*E歇%dp[m[mT係$Lcˎ#ğ偉jpZct9cDZ#rJcn1c-A停8ˌ#媜'bʵ0˿$˼#lTb˱$EGeKeNGeDeNeBeMeReLe.eSe-A嗯(zYkRbʏ(bˊ#c.AD"
  , "暁%峖%ʽ#(uBkFSUNkFoXFLAMEi!hbT*M&< 愞0AB0=C$ADI$ SYLLABICS N;TILIK H[HI[HOdHOOdl_HA_.RIƅ$[.ROƅ$Ɔ$Aƅ$#SP%SP?SP:SPA"
  , "aPAU C& HAUkBlDelBelIelOelQen1enMemOelAelYem3elTel3emWelRenCelJenKelFeoOem0eAeEeIeOeUeUAeIAekTPfKfTfMfNfLfWfNG"
  , "fYduYoYmPfd尵%rMnƓ'kTf!d!ƙ)eƪ$fƛ'MID-LEVELoYdƟ#tKƓ)ǁ)ņ-F<L&Gǩ$ƫ$Ɩ+Ǭ+Ɯ#ŀCĢBHAIKSUK委9cƪ$匏H岤~dȎ#3宙9tH扑-GAP FILL*-1"
  , "cƉ&2bǅ#5垮A椴VbHUNDREDS钏$kRŀC70=!M)~>t4bkR.A礐+ˊ,m2ʸ(ʵ+凸-m1击1妜)Aɥ$92=y9叆)參.厴(厱+厮-m1厬%˸$A9=lNd刱*dl_侭'灂'判&7ŀDĢMASAĳ"
  , " GONDI嚸5D08=m[Oƌ%B=mTd呸7o9呻O呣8q,KSS_JNY_TRA嚽1nDReȓ#3A=EƉ%C囈$ƌ%F=m]囋%Ddr_tY囑+REPH#RA-K)#Ʊ#嚤ED60=GUNJ<Aʳ6ƥ$扴*D6A"
  , "扴%趱%ɹ(˄%ʝ'Iˍ%ʦ(˓%ˊ&qE˜%˓&mO˄'Aʻ$Tʛ0ʂ$90=oIemIƍ%3=n8eʒ)ʄ#OMɹ$AɹDEE0=MAKAS)kBlB儓&lD僸&lR儍&mW儢%斓/Ab$GK粕),ObPASSIMB"
  , "$G很$sNŀFB0=LISUkBYHAŀFC0=沏$sBkJ引%凂&-$D-TW>TIE|dONƚ-SIXƙ%EIGHƊ%Ɠ#Y-顤%dFORƖ%|IRTY-額&kLư(SƱ,SckJTW>ǋ)E>|-1ƌ*2dT>|"
  , "dsǈ#ƭ(SƢ'ǅ%FIF|dq_H<F-1Ƈ%2ckLvBcDOWNSC<ıFACTOR KIIZHbk>ELcCEVIT^AAZHAAKK^UZHƈ$MUUVƌ'KURUN?P;Ɯ'KƓ&KAAC^P$AMcPON"
  , "cV)AAK$cPAAĳcKUZH?VELIbWET CULTIVģkEĖDRYb!L$Db!S<T P$b!TRADIī< CREDI]!m7b!CURR>Tb!kFODƷ$PƐ%TOT<b!nSPOSSESS涐%ST"
  , ")T&GuAĩMU|<IY#VAKAIY)氆%FFF=pS婥'aCUNE芜$kEAİAesJeuCpEelAeq1eLAG)nQeMU.eSAGcA2cABİA.2eDUN3nQeG<ƴ*nQeIM&ew0e.E.eUk"
  , "3Uk3UdnQcAB2İB<AGƲ%MEk3oGe.A3et]ADcAKİ*&2e.ITAk3t^<İ<eDIM2etUǩ#KAD3eKIepHeU.c<$cuRcAM)İpHc$dlH$dkLkXdk3NAGAxV$"
  , "Ɗ%fp1c$.%AP&c)ADİKĥ)KABcAS<2cpWdZIDAp,!KAB_lHpWTUG2lHƆ# Ƌ*PAPfƞ#hpTpWƉ#Ƅ#cA.2cA.GABcl3csJcBAG3cBAH)2cB<dlHB<c"
  , "ʒ$cmHcB)A2cBIİAeqZˏ$cBUƧ#U ABfUNdpTB^BULUGdlHƈ$cBURƄ#2櫒$AGdKISIM5kXAk3MA.fAM)fǤ$fBIflYgƘ&GIfGIR2fGUDflAfIRgk3L"
  , "UfKAKflIfLUƨ&2fLUMfNEfPAPk3ɪ#SIftTfU2k3ǀ$U.cDAMcD)cD)A3Ɔ$4cD?DIBcDIMİpHƉ#2cD&dvIUnQuSc!cDɝ#DUdnQdx4cDUBİE.2Ƌ#"
  , "ƅ#GƄ#UDcDUHcDUNƄ#3dnQenQƋ#4cDɸ#EİPAPdlHEoFlHoFcE2dʀ$lƄ#Qˋ#MIeS<epHe^ED&cEGIRcELcoGİuCfpEeM,pToGd!xVdp1c*>c*&2c"
  , "Ȕ$EZ>İAfk3L<hkXL<e$esJ儌&gnQelAfnQe!q1evIfp1eKU3elIeL<Ʊ%LIeLUeU2eUDclYdnQcGAȯ'Qȳ#g!gq1eAB2pEk3TABe$epWeA.˳#<Ǳ#m"
  , "Hk3lFeBURfƉ$lQeDIeDIM˫#eDUBeELƚ#IeoGfkX兯$/2ʊ#GIeGI4fk3AeGIR2k3SUeʨ#LUk3E.2eHAƺ&HIk3LIeHUB2凚&.k3HUk3pWeKAKevIeK"
  , "IDʏ%ɨ#k3$elI凘&˴#oFflHoFelD˿$S)epHfk3łe.IDeSUMetTeUeUǈ#倏$GA2cGAB_pTGAB#GADƖ$DqZlHqZcG<dGADƓ.AMcGƄ#$cuCdp,lHuCd!"
  , "p]ơ#)3cGA.$cGE.T&凲&GIİEeUǮ#?GI4Ǭ#I4ƺ%GIDIMcʧ#dnQƈ#3侩%q1e˒$q1e!ʹ#elDcGIS<ctǊ#tUİsJetTdp%Gǝ$^GU2İKAKfkXː$oFeS<ʎ#"
  , "Gǡ%UDǠ%KURe!Ȋ#UD LUG<cGUƄ#克&GURƄ#7ƅ#UNƆ$.cl_pEǈ#H<cHIİ倶&受$SeGADeK&eoF儈%H^HUB2İ$eH<evIeLI.eUDcHUL2c[#IBcʅ#dlHƇ#"
  , " BURfp1cIGcq1dDIBdR[lHq1.IRlH.IR UDlHUDȈ#ILd偻$%Iǎ#Mİʒ#TIM兤(IM&cnScIRcI.clBİAeADfʅ#3Ⱦ(吵%mHeBIe*&2eE.2elY呿)qZfk3"
  , ".A3僚%僝$etUk3S)fpTtUeGUeʵ#eq1eIM僁$K僁$冓&ME傂$gGIgTEeMIfk3NUNUZeNEʳ#oNeRUelTeS)emRepH僂%.UeSIGeSUHUReT)e凞&eUMUMkXlD"
  , "eU.eZ?KA2dpTKA2cKABcKAD2+3dlHKAD5cKAKd倖%cK<İsJƬ#<cKAM2ƅ#4cv[w0kXUlHƇ$d/7lHv?KE.2cKIƵ$ǽ#DcKIDcK&cKIS<cKI.c吖%dlH"
  , "Ɖ%cKUdlHHI嗌% KUƍ)cKU3cKU4dtKoLcKU7cKULdș#UNcKURdxVKĥKU.U2cKWU318cl?w0İAf勇(qZgL<e<勀%啌%俍$IeD)eoGelY劒$凼$GUDelAeH<"
  , "eȊ#oF噎'fǎ$LU侮$&卑$KULfk3HIk3Aew0傶%LUeLUL俇%oG嚵%NEepHk3SUM噐)k3*&2hpEe.U2fk3.U2eƤ#TAGetTeTEk3Aƶ#k3lJeUfk3AgUk3UeU2"
  , "k3pW俜$.dp1cLAG噲&fǦ$dnQelH圸&pHcLAH.^L<İL<co8İK厶$R^L?LILcLIMMU2cLI.cL刻%cLU2İ<ʱ#E.2fpEe!uCʝ$sJ僂%D2ƅ#3fȖ#ʟ#lIƊ$w0"
  , "厃&ʀ#NUeSƗ%SIK2k3BUe剰$p,pTLU2冋'dx4cLU3cLUG<dlHƈ$Ɲ$ƚ%ț#LcLUMƜ$Mf卻&lO凖%nQcMA2cMAHcM)cMA.ƅ$2cM%MEScM?M&co1dlHo1cMU"
  , "Gƴ$UNSUBcMURGU2cMU.İAeKURenƪ#MU.f唝%JdpTMU.Ʀ$3偬&DIe!dnQ澗$A2cNAG_nHİ.Up,xVƒ#Ɨ#)cNAM NUTILLUdƍ#2cNEǯ$UDɤ#NIİ%NI2c"
  , "NIMd唶(qZk3cN&DA匬&pW˲%GUD˩$ƨ#刦%哞%A $gpWhƥ$/2U2eU.cNISAGcN^NU11coFdLAG)kXqZfMA.fS<glHoFƗ&S<fU.dp,Ɩ#d!pTfƜ$偡&c办$d"
  , "AB2kX塦%fBIfDUG埒$q1nQf倝$lIfNEfSILA3fU2堟(BIg^lDcPADcP$cPAPcPE.2coNʕ$ABeBIeBU戈$IB勗$dpToNcPIRIGİK<eUDen1dxVƔ$焀$ABc"
  , "RI郡'AG˲(Ǖ$DUeDUB姃%K俧$LUMeMI唌&卓%TABeʵ#BeUMeUReU.dlHSA倲$S<dw0劫&S$GA2cS)cmRc.A3嫇'tUeN凡%eł凅$#.A6c.AB6c.)2cpHdHUdlH"
  , "pH噒-f/3TABlHTABc.EG9c.>c.E.Ɔ%2Ƈ%LAMc.IDǷ$Iƌ$Mƌ$B<e妠$eD&姍%fnQe匶%助%UGeS<c.&IGc.IRdp,商&BURlHBĥ.IT#Sȧ$nH.^.U2c.Uƞ$"
  , "Iʔ$IGƄ#4dlHƇ# Ƣ%IK2c俷$cSUƚ#^SUDƄ#2cSUHĥSUMƄ#A.cSƏ$R9clRdrUİHIeMǜ$TABdʉ$ NIlHNIuSlHuSdp1cTAGİBIeGUD唏%剛$壚$t]T)cT"
  , "Eǃ$[p%TILcTIRİtTǒ#IRf˵-cT^ǀ#cTUKcTUMcłdlHłn1lHn1cUdGUDdU Ɏ#UlDlHlƺ&fSURɡ#RfUmXlHUmXcU2cUBcUDd˲%唝%MI岐'jnQd!dx4e"
  , "ƙ#cUDUGcUMİ匼&lQ岗%^UMB&cUMƞ$vIelDcUNɖ#URdpłdx4cUR婱(glJe<elAeoFeU2利$gB?URƧ#IƄ#3cURUİAe冷%emHeDUN囎.eGUelA嚭&I.eKI儬%"
  , "&el˰%IG4eTUeU唽$咖$RUD#!İ^卌)全$t]U.XcU.2cU.UMXcUTUK?UZ3İv?UZ^n1dp,p1夞%ZAGcZAMXcZE2cZ[lHZ?ZI3cZIBdKABAp%ZIGcZIZ2cZ"
  , "^ZU5İ#ZUBĥZUMcKAP ELAMIT%ABkXoFc劲$#AM)Ǧ#GcDAG 劗'U2屷%ƕ#3cuSk3.^DUB壹$EZ>kX偰%cGA2kX$k3KAKk3ˎ$2cGE22cGIGcHU.clBkX$"
  , ".EeA.3etUeƼ#囪'ː#ˌ#.ULˉ$R2cw0kXG?LU2x4kXsJ岑&嫤%.^ME咃'kXn1cNA4cN&cN&9吥&kXB<eGI叩$sCsEDEGREES卟%r^PIR2cSAG埱&TI2cUMkX"
  , "M%U UĠ24Ģ軂&kEkIpW醌DLuSƣ?NUƝ:JGE.2釼.ư?Uư4kI.)2Ɨ$ftKoLdkN.)2Ǐ;.)Ǐ%Ƹ0ȷ&.)2kXG<k3uShM&dkJBUƶ3BUƵ'kLƓ#E.16gE.21dkN"
  , "ƒ#坶$gƆ$4Ƈ% AhBdkYƝ#A.9dk4Ƌ#IM&3gIM&Ơ%0ƕ#USSUgƅ#3dk5Ʀ$Ǐ%Ƈ%3ƈ&4ƈ& _kIpWpE鋋3Ƀ#$˸/Ɉ&QB$2ƌ%NIGIDAM&Ɗ&E.dkJE.E3Ƽ%kJw"
  , "CuSƌ$xBɼ$SIX|Sƙ$ɕ$ĻƜ$kJsDpWe!q_oZASSYRI$kJư$gq_kJqAGURe!l9d冿&ǆ#eƿ#esUepQdkNUȘ#ĻkQĻkYĻk4Ļk0Ļk5Ġ247鉊$Eǥ)t8DIVID*"
  , "dk9qRd!pCeTRICOLONeQUADƊ$Ƽ$ĹkE刴%妬&cAD怠&sJkXuSpE慎&kXAB2eNIen1cBUlHBUkXNA2clQkXt]DAG勐%弡$q1eU U UƎ#2kX恟$G刨'pWf;kH"
  , "eD&eDUN屮&lY屓'nQ抃&HI媡%vI卟$KU婍&vIeLAK-020eo8fkX囤%Hk3tUeMA.eMESeMIȭ#oN叇%nQcE2ƪ%PAPc*&2 XcE.2pT恻(x4kXpWfHIfǸ#憤$<fM"
  , "EfMESfSUĲ匒%ʒ%eDIMnQe!ɜ$q1gvIe*>孴%k3DIgNE忹$Aȼ&Ȼ#ȳ,孃'fk3E2gGIe.IMeZIZ徠%勚*彔'kX^tUkXtUpTt^GU2ǻ#廚%k3ƚ$]lApEnQcHIɏ#l"
  , "Hƈ%厪$BUelB侜%eUR压$ZUlHZ^˒$03c˚%1ƈ&5ƈ%30ƈ%5ƈ'Ơ&62ƈ%79lHƉ&nQƓ%80ƈ&1ƛ&8ƴ&9ƴ%1ǔ&14Ɛ%210ƈ&9ƈ%20ƈ&5ƈ&8ƈ%3ƈ&65ƈ&6ƈ$343"
  , "ƈ&7ƈ&8ƈ%83ƈ&4ƈ%9ǘ%441ƈ&9İGUeq1e掀$LU3g!Ƌ$岎$l3ƨ%50ƈ&7ƈ%7Ɛ&8Ơ&ǘ'92ƈ&Ƙ'Ȩ%5ǀ&608ƈ%17İpW拜)nQ拊'T)eTEeU2噲(Ƴ%36ƈ%48İ姥$Y"
  , "壵&NIȽ%ɂ'e.E.k3KIǃ-724ƈ%49cLU2nQȃ#İuSeH<Ǆ#fǅ*t]MIk3ZA7cMU.尬%kXlYgKAK喋(儇$嗹%LeHIeKE.2e倰&eMA.Ȝ(娥$UȐ&SAGȀ#lAİoGepH;"
  , "kHet].A6p%pHlHpHdk3挟$NAM2eS)c光%兴$NIeE2kX$cSIkXt]tTk3SAGcTUM屜&kLuScUR2nHd劈$URUkXD)A3eˋ$68eLU3cɣ#儉$惎%cZU5kXƼ#pEĒ"
  , "2F9黎%O-M&O$kECM001cƆ#2Ɔ$4+8ƈ#12BƇ$3Ɔ$5Ɔ$7Ɔ$9Ɔ#21Ɔ$3+Ɣ$33Ƶ%44Ɔ$6Ɔ$7Ɔ$9Ƣ%58+Ɩ$66+ǀ$75BƇ$6Ɔ$8+1ƺ$94+1Ǚ#107+3ƈ#12"
  , "Ɔ#Ɲ$301Ɔ$2" ]

end CommandLine.Text
