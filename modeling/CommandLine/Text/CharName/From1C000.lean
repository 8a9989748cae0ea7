/-!
# Names of characters from 1C000 to 10FFFF

The names in order of the code points, in the written form of `CharName`.
-/

namespace CommandLine.Text

def namesFrom1C000 : List String :=
  [ "ĒCFĢZNAM>NYoTkRGORAZDO NIZKO Sx5pBkHd/5ĲTS;AĲƣ,ĻĲSREDNEĲM<Ox6ƕ%VYSOKOƕ(S KHOKHLOMǏ$4Ɵ&Ǳ3GdǱzǖ$ǩ#ƾ)STR$NO Ə&x6S"
  , "x5eƕ&dƷ%Ʊ$ǘ%ƙ%Ⱥ)ǘ&ZELOdpBdRAVNOdTIKHAY_BORZAY_UD)K_PODV*TK_LOMK_KUPNAY_KA~K_ZEVOKdSKOB_RAZSEK_KRYZHpBkHc=1CF30"
  , "=TON< R$GEkRMRA~NOfSVETLOfTREƊ$:kRZAD*ZHK_!DEMESTV>NYdOTSE~ȍ%~A.IEe(k9lKd~A.KAePOLȗ$OBLA~KOdSORO~YA NOǒ$TO~K_D"
  , "VOETO~I%;TA~&Gk9OME]!kRxDȾ%cl0ȵ*xIbPRIZNAKp0LEVEL-2dƈ%3dDIRECī FLIPƾ%dROGbɼ#50=NEUME KRYUKˣ$YcP)AKLI]DVA V ~EL"
  , "N^KLYU~cZAȰ#EKcSTOPITS_S O~KOMcP*EVODK_zQƟ((ɩ-#~ELYUSTK#P<K#z#GOLUB~IK BORZYȉ%d侊%Yd侀$Yd侊'YcVRAKHIYA PROSTAYAƫ%"
  , "ˡ$yUƩ(Ə$5Ƥ'eƤ(eyUeƤ)#kMz#mXș*D*BITS#KHAMIL:~A.K#信(%SKAMEYTSA ǽ7傳&#倬* ˈ%ƾ)y5yUdƕ%>EPOSTOY$Nȼ%ǁ%倖%~ELNAɵ'ɇ&zQey5"
  , "cSLOZHITI,SzLdZAKRYTO,Sx5c倮%ROGcFIT#KOBYL#ZǼ$#ST;YAƶ#ex5e!zLIex5Iǅ'Ǧ$Ǔ#S ROGOMeDVUMYA ZAPY;YMIezLI ʔ)McPOLKULI"
  , "ZMYǜ&個$REL侬0Oɜ'Ȣ$EVAY_POLUPOVODɿ$Ɗ)zQʢ'Ɣ(ʳ2˲* PUTNʹ,ƍ,OǴ&ƕ-ǜ$ƶ0y5d!ƥ3GROMƉ#(m5zAĻz0Ɣ'_z0e(kMzƧ%ǰ*eǁ'#ME~IKɧ&Y"
  , "ɑ'VOYɭ-Yɫ2Y˕'TRYASOGLASɿ$Ə$Ȥ%Ɛ*Ƭ$ǳ$OSOK傦0凼$OVɬ#Ud!y5e侵)Ɯ%ȹ-eɺ-eɺ#Ɣ(ez0fɺ%eɺ.fǁ)ȗ$K#KUFISM#OBLAK:DUD#NEMK#PAUKĒ"
  , "D0ĢBYZ$T&EvElGmLdDASEI_qLdOXEIA EKFONITIKONeDIPL[V)ƙ5KA|IST[SYRM;IK[勮&ƌ$YPOKRISISƯ'REMAST[APESOǐ+d!EXOdTELEI_K"
  , ">TIM;_APˮ#OFOǃ'SYNEVM_|IT_OLIGONvDd!GORGONdPSILONd~AMƉ$VA|YdISƦ&ǚ%_!Ǥ)SAXƉ%P)I~ONdSTAVROS APODEXIAʙ%Iǂ$ʌ%[!ƞ#*"
  , "Mȥ$|EM_KLASM_RȢ$PIƍ#vDdT&AGM_$;RI~ISM_SEƇ%YƜ$vDeMETA ǹ%UdOYR$Iƿ%Ǜ%LEMO[DYOdTRI_TESS*_KRAʪ%˓'XO NEOdF|ORƾ#IMIƌ$"
  , "_TROMIKʈ$K;AVA ƒ'dPELASTʾ%FIƊ$KONTɇ$~OREVȊ$RAPȵ#俣%<EȠ%!俳+I~AD&dN$_PETʑ#Ǎ( <LOd!ǹ'囗$GGISM;_Gļ|ƍ%侲$Ɋ$!俥%d!OXEIǕ&"
  , "T[KO僮$Ƒ'OƐ&ʔ'Ɛ(ɞ&Ǐ%偛)Ǝ# $OĲƔ%_YPSILI側*ȁ&Ƒ(I SYNDESMOSdYPORROIǮ'Ə%ONdELAFR傂([MIKļ ɐ#先&ǖ&PIʜ$!˵)OM<ONd$TIK>OM_LY"
  , "G˳$ˣ*ƿ&侅)_ETEļ Ɠ+KYLƹ#ǌ(Ɛ'˻%ʍ&EKSTREPTON傉&Ȝ%SYR俹*ƪ%PEG*傸&Ɣ&XIļ KLAǘ*Ɍ)Ɗ'LYGǹ+Ə.ȳ*Ʋ'Ɣ(Ƨ*Ȟ$ƣ)Ɛ(GORGƍ#|ETʹ#Ǝ,!ʘ%"
  , "兎%ȷ(|EM;ISMOS ESOeEXƔ& APLOUNd|ES KAI 凘%S儯%ɦ$>DOFONONdYF> K;Oe$O刱'dʍ% $OdDIPL刲%冤&e<LOeNEO刻-LIƫ$[TRƇ%ETRƖ$KOļIS"
  , "dLEIMMA >OS ~ļOUeDYOƌ&Ne!TRIƈ%ESSAļeIMISEƯ)ʧ%N僲'eP)ESTIGM>ON )IST*Af勫%DIƮ%Ʀ6ɴ$g$OƯ&TRư$˽&NdIMIDIƋ%ƈ'AGOGI POLI"
  , " )GIe)GOT*IeƎ$METRIAeMESIeǊ#Ɔ#ơ'ƴ$ƕ#[M)TYRI囷$TOS I~OSe/2<LIe!DEYT*ƒ(ʕ%TOSeTRIFONIASeTET)ƻ(f!LEGETƳ$e!PLAGIOSdI"
  , "SAKIA TELOUƫ$IM;OSĲ分([F$*OSIS 侮$ǡ&ńOƋ&Dǵ&ȷ)V)Yȶ'!Ʌ$Ɠ$ǻ) ȡ'dGOR|冦&傕&fDIƈ$d>)XI傠%叙% VOU˷#傘$台'ļ各(ʜ&UǾ$UeDI;ONIKIl"
  , "DfN$AeNAː'Ɯ) DIe!SKLIļ Ɨ%ONƠ*KEfZOfNI倐(eM<Aȳ#~ROMA ʃ'gʗ)dFHTȱ#Ǘ$ƪ)VASISdF|Ɯ2SYNAFIeN>$Od~ROA ZYGOSeKLITONeSPA|"
  , "Iƾ'I YFESIˌ'IMO儛$>)ń˥#$Tș$_ƪ'RIƨ'd!DIƕ#eƿ-APLI DYO DODEK;Ae!ńOGĳMOS 喍&e!DIƔ'EXe!TRƐ(OKTOd!ǵ&ǒ'ǉWGE侥$Ȯ&Ǖ%dDIAST"
  , "OLIǞ%MIKRIfMEG<I圼%e|ESEOSd!SIM$SISfDISIMOUfTRƉ&僑$Ƌ$e)SEOƣ<dȧ&A GGdDIFTOGGȣ#Ud刹$_)KTIKOlDeVOUelYeDIeKEeZOeNI喋.M"
  , "ES喌*Ɲ.K;Ɲ+!呶&!勛)ĒD1Ģ壖$5B)L&%!kMc!kTĜrKc!DA.EDc!n6ckHREPE;kEĜkGcƎ%lXcD< SEGN:lQCAP:ƍ%CODAƥ&ĪFIGURE-1+2cF*M;_kVc"
  , "BREA|kRcCAESUR#BRAC%n:ONE-L&E STAFFc!TWO-ȥ&|REEƍ'FOURƌ(IVƘ(SIXƋ%Ɖ#STRıFRETBO)DƸ&Ƙ&cG CLEFeOT埪$<TAfBASS#Cƙ$c!Ɲ3"
  , "DRUMƠ$-1dƇ$2c˖#29=vYMEASURE RES]kM.)PdFLA]FL;kZdk7cNAł<ƍ%.)PƋ%qAoY.)PeƱ$COMń TIM%!CU]ȋ)_ȋ%QU&DICESIMƘ,MULTIȅ%!"
  , "WHOL%!l9c!q#!sDc!y8c!|IRTY-SEŁDʾ%TY-ʤ#|c!kJnUTW>TY-EIGH|cXw3c!k3c!l8XcmDw3kUekScoUw3kZkUfkSekHƈ&Gƈ&7ƈ&Zƒ#gkScu"
  , "BƸ'TRI$GLE-ROUNDw3Ƭ&cq8Ǫ$VOIDcw3kScNULLw3cCLUST*ƿ'pKcɠ$ NOTɥhoTSTEMd!SPRE~GES$GdTREMOLO僌%&G*Īƕ+oTAUGM>TģkOdFLA"
  , "G-1+4cBEG& BEAMc!pFƐ&TIEƏ+SLURƐ+PHRASƢ&oTp2dSTACC;OdT>UTOƐ'ISSIMOdM)C;Oƈ'-Ʈ(ACC>TƐ)LOUR%)PEGGI;O偾%oTDOITdRIPd"
  , "憴$SME)dB>DdkMTķU,!oXcR&FORZ$D:SUBIT:ZcPI$:MEZZ:FORT%CRESC>D:DEƌ)GRAC侬%uOe!o0cTRcłNc!nHƊ$uOdkZcvCSTROKE-1+8dƋ'0"
  , "Ɗ(1cHAUPTSTIMM%NEB>ƌ&pFlEƋ&DEGREEu:oTk7BOWd!kZdH)ńICdSNAP PIZZIC;:PED<kRƥ$c!l9Ƒ$cGLISS$Dʧ&(F&G*NAILScDAMPd<LcM"
  , "AXIM#Lķ#BREVIScSEMIƋ%kUdkScM&IM_kƚ%Ǝ%ƚ%FUSƊ%ǁ% P*FECTA凂$d!IMƒ&#!Ǟ&!Ǡ)c!Ǐ$#!ǜ(#TEMPUSǎ'UM CUM PROLģEǧ(gǠ)gǻ(DIM"
  , "&Uī-1dIMǅKhƼ++2cCROIXcGREGORI$ 卞%d!FcmDBcVIRG#POD;UScCLIʽ$C$DICƑ%MAƉ#TORCULUScPORRȌ#SdFLEXUSc!Ư%Ʀ+ʼ#UP&ư#ES SU"
  , "BPUNCTIScKIEVȆ)pFlEPIEC,kTNOT,RECIT;IVEkRd剜(,!l9dqAƌ# STEMk7gkZdsDƑ.FL;k%SOR?KOļĒD2ĢsSVOC<xPSYMBOL僙$Ƌ'0+14ƍ'50"
  , "+4b&STRUM>TƲ+ƣ'2Ɖ'Ƶ)Ɖ'7Ɖ'ǝ)1+3ƌ(7+2ǅ(3+4ƌ(9Ɗ'30Ɗ(2Ɗ(6ƪ)4Ǽ)3Ɗ(5Ɗ(7+7aoTsSvETRISEME宫%Ɗ$P>TƊ$aƠ#宲%ʝ$E0=MAY$w5l4ck"
  , "Jck?kLckNckQckYck4ck0ck5cm%vGcuZcxQcxRcw7cwPcxKcw2cxSĒD3ĢzHpGvLa堞'pGHEAV>LYc!HUM$cE)|LY ƙ%dƕ%vLaȪ$ƴ%nWcpRl8cMI"
  , "REDcB)RI*cKEEP&GkCcŁTR)IETYcASC>]OPPOSIīcBR$~ıOU]DEFECTIV>ESSm8DISTORīcDIV*G>C%YOU|FULƤ#c&CREAS%P>ETRģcREA~ǹ$A"
  , "C]HOLDıBACKcWAITĺFOLņĺADV$C%RELǉ$RESIST$C%Ɛ$JOYǋ$>īc>DEAVOĥDUTIESc~$G%DECISȺ&crCRESOLUīcPACKĺLEGƏ#CLOSƦ%K&.IPc"
  , "GA|*ĺSTR>G|cPURITYcFULɧ$ȕ$D>C%LAWm8MODELƕ#PONS%GO&Gk1MEE]>COUNT*ScSTOV%GRE;ǅ$>L)GEM>]P;T*NcRITU<cFLIGH]VAST˻%W"
  , "ASTĺŁʍ$Yc垯%%ET*Nȝ#UƆ$DIM&I.M>]p3r3cGU)DEDǳ#ɛ)nScMASSĺACCUMULAˏ%MBELLǀ'DOUB]W;~cS&Kĺ&N*cDEP)ł%D)K>&Gǻ#MĺEXHAUSī"
  , "cSEV*$CEɽ#PPAG%H)Ȍ%COMPLET侄&Ɍ$FAILUR%AGGRAVģƧ%I$C%pBpAV*G%DIFFICUL俲$LABOURĺFOST*&GĒD360=˼$ıROD ʡ#lSkJekIekLekN"
  , "ekQekYek4ek0ek5cT>Sơ;atFT<LYkRkJdk[kLdkNdkQaƖ(ckQĒD4Ģy1rCkD_BdCdDd,FdGdHd[JdKdLdMdNdOdPdQdRdSdTdUdVdWdXdYdZckC"
  , "ƶRbv8Ǯeȿ#56=ǳCrCǵ$eBeCeDeEeFeGeHeIeJeKeLeMeNeOePeQeReSeTeUeVeWeXeYeZdkCƶRbrXkDAȡ$9E=CdDƋ$A2=GƉ%5=JdKƋ%9=ȶ&Ə%E="
  , "ɶ5Ǆ'BB=FƉ%D=ʶ,ƕ$C5=ʀ7rXʀ,ʀ~FRAKłkD_BȚ#507=侷*50D=Ⱥ'ɿ*516ɿ-cƕ$E=偨VUȀ)3BȀ,40=ǂ(Ƒ%6=OƉ%Aȃ252ȃVrCʊ&˽,˽~vX凎WƶSrCɜ+ɜ~"
  , "c凇.Ǯ~刷&fBfCfDfEfFfGfHfIfJfKfLfMfNfOfPfQfRfSfTfUfVfWfXfYfZekCƶRbńOSPACE俁/厏~CuGIeJĠD6A8=rCkDpPdsVdr1dr0dqVdu1drS"
  , "dqWdpYdsTduLdo1dNUdX[sOdoNdqKdqWlGdtPdtCdqBdqXdq6dPS[pLcNABL#kCǖRkTtPd!ǖ3xXy2cqVlGc!qWc!s]!qXc!qKc!oNbv8ɋ*ɋ~ɋ~"
  , "rCɍ%esVer1er0eqVeu1erSeqWepYesTeuLeo1eNUeXIesOeoNeqKeɍ#etPetCeqBeqXeq6ePSIepLdɍ#_kCǖRɍ#e!ǖ3ɍ#dɍ#d!qWd!sTd!qXd!"
  , "qKdɍ$vXrCɍ)ɍ~ɍ~d侘%fsVfr1fr0fqVfu1frSfqWfpYfsTfuLfo1fNUfXIfsOfoNfqKfɋ#ftPftCfqBfqXfq6fPSIfpLeɋ$ekCǖRɋ#f!ǖ3ɋ#eɋ#"
  , "e!qWe!sTe!qXe!qKe健&kDDIGAMM#!kCc=1D7CE=lSl4d塋-dkYdk4dk0dk5bvUƢ@XƢ>crCƢ#e壕9匟)ǋ>aSIGNWRIT&Gp8nAb!s0b!zMb!H$D-OV<"
  , "b!sMb!u7bƥ#rRĖs0Ėp8nBUND*cnAq9KNUCKL,CUPPEDdt0el1bs0nAH&GEƻ$lCƻ$ƌ&rReƶ(Set0ĲkZdt0lCkZdlCs1fǭ#f!lCfǕ%ft0ewTĞǄ$"
  , "ǂ#lHn#nAƉ#lCdlCnBĞǢ)GnBrRerRnBrGeƌ$t0xEnBr4ǭ$lCt0hs1Ǵ&Ɨ$Ɖ#Ƣ#tIenBǶ&nVfHOOKȀ$cnBs6ǜ%cnAȦ#Ʒ#hs1hrRcȀ#ƪ%nAkZc!nA"
  , "Ƒ'lCɓ$t0Ư#e/2wTes1ǧ#f/2ǧ%clCǲ%ƾ*Ƒ'lCc!Ơ#nVnAgt0cƛ#$GLĪOUTȵ#f/2nSe/2nVʇ$ǫ#fƢ)gclCƲ+Ǣ#hwTfǪ$Ȧ+t0bH$D-FL;kNtLeʴ$e"
  , "s1fSPLITƝ%CLAWƝ#s1bp8Ɖ%rRbsMƔ%ǁ*QtLx%/3HEELcƎ%kNrRc/5ƒ$!Ƣ'4Ƣ(˽%bzMƍ%fmVĸsMb傏(Ƙ%ǥ/t0g˚#go0nBccs6P<M FAC&GScǝ$Ɵ#"
  , "Ĝƌ'Rdt?ɔ$nAƛ#dnWeǂ$rRdqDɨ)Ƹ%Ǘ$ș#ƙ%ʮ# CURLICU%bzMmVccmVǣ&cmVư#Ɗ%Ƶ#ĜǑ%Ƴ'mVcbs0ɔ)ǥ/sMmVdƺ$ckCǙ3Ʊ$TOU~&Gn_s6lCmMb"
  , "冣&ƌ#Ğs0ĞsMĞu7bsMqDƝ(rRfs1˘%p8qDk7eRIPPLErGfxDeO|*SnVdkZĜ凤%凵(ȴ(Ėu7ƿ$凼)rRdȕ$ESnBd!ĖsMb!ƥ#nAȍ%u7qD˲#Ƅ#OUThbƝ%ǟ$ư&"
  , "2ɇ(qDɇ)cɠ$Ɩ&!ơ%p5ĸ凰$mMkɥ#Ƈ#Ǜ#lLlCbu7Ə#lCǮ#p5ƥ%Zdȯ)qDɖ8mMlCes1劢*dn_nBĖ倂(ȥ$mMȥ&俢-ƙ%pBbƮ(ƒ%OUTfnSf˓%zMǀ%ʚ'ƣ)募$ɑ$l"
  , "Cƌ%ZĖ勷&Ɂ)劵%Ǥ)ɫ#ƣ$nBqDd!d!mMȞ2lCȞ&zMlCȂ+lCȥ*bs0Ɛ%rR儐)ƒ%s1gǸ+ƕ'OUTgnSgbsMnAt0ʠ$ȡ#Ǟ$Ǝ(nBpCgǁ#Rf!nAf!BO|f吩&etInArG"
  , "grRelLeȱ'euQnBuIb/5ȉ(ǐ&uQ傡&el8ˑ$nBemVǲ$em6eekCbu7偭&enSeb!p8dHEELdr4p俤$rRdt[受%eɋ#eɎ#dǖ$kItLĲlHd!Ƒ%Le!kNdlHkN倝)c"
  , "cǒ#bTOU~m5cvYcs6bGRASPƎ(STRIKEƏ(BRUSƫ)RUBƩ)URFACE 擆%SƓ$QUEEZEm6m5噯%m6vYƊ%SEQU>TI<bFLICKƤ=Ǌ' Ƭ$sLbMOVEM>T-˽$kZk"
  , "7m6ekCdƳ)c!k7cƚ#sLm6fkCcr4k1r4SCISSORSbu5F&G* 搏&Ėu4bu5m5rGkCemZem6ew8dvNFLEXckMrGƌ&dsLeƖ&p5coXrGxWƛ1B>DkCdmZdm"
  , "6ctOƋ'dROTģcwƟ)q0Ƌ(x8Ƌ(PEAKSƎ'bTRAVEL-W<LPL$EzOm5dkMdsLczNƋ(.AKĺ)M SPIR<m5ekMeoXʴ)DIAGON< AWAYȘ(w8cTOW)DSƓ+s6"
  , "ƥ#ʐ+ƥ&Ɠ*bu4ʵ_xWʷ+ʯ*cwDʞKFLOORʟ$ʔ*zOʟ/bu5uQqAȲ+H<F-CIRCLEɮ+漯%QU)T*l8kCfmZcHUMPȈ(t2ʰ(kCkMcsGuQkMƩ$fm6eoXƋ'cuQ|>r"
  , "GcxDp5ǥ$bț#cƵ#Abu5ȝ&cuQtXFļT W<Lc/3ǰ#c/3t2c/3sGĞƷ$/3kMƑ#LɎ$tX~ESTĜƮ%2t2ĜsGĖƮ%2kMĜƮ$sGpCPA|Ț'bu4ǁ$EIL&GƖ#6ɤ$Ɠ*k"
  , "Mf!先$oXf!ɸ$Ɵ*m5Ɵ%Ʃ(csGǑ-bzNm5Ɠ(ȏ)Ǽ&侹$Ǻ)Ƒ&Ǹ)oXǺ#gǺ&Ɵ&Ǹ5Ǎ&Ƕ)Ƒ&Ǵ.僦*dCOMB&ED俚&c!t2csGSNAK,kCdǉ$侪%ƾ$侪&yQbu5)Ml8Ȋ#e!"
  , "mZeȊ#Ɗ$bu4ƛ$tXW<Lơ#g!mZɃ$gƦ#Ə)bu5vNl8FļTm5fkMbu4vNƻ'm5gkM劯)傤%Sm5eƨ$Ɩ-Ʋ+DYNAMICr9Ɂ$cFAS]SņcT>S%RELAXEDcSIMULT$E"
  , "OUSdsLcEV*Y O|*焸%GRADU<bt4cRIMcu5rGdTIL]u4rGcu5uQc!u4cxWl8bmQ芷)槌' NOSEtIƴ#&GfkZm8k7iƏ&bEYEBROWSrGkZdrWdk7b!DRE"
  , "AMY Ɯ'Ɨ$rWd!Ƥ$kZbFOREHEADrW槏(yVbr5mVc听&Dcp3ǝ# BL&Km5dvYbr5l9mVc!WID%l9p3cWID>&GxWƭ$W&KƉ#LA.ESkZck7cFLUTT*ȭ&GAZ"
  , "E历)rG剚%ƚ'劂%ƛ,Ƶ1xDb!Ʊ1Ʃ1俗%&Gb~EEKS PUFFEDcrWcSUCKEDbT>SE ƞ%mNdlCdl1bE)Sb˵#ʞ*WR&嗳$WIGGLESbAIR Bņ正&Ǒ$榐%BņkC咨'SĜƜ#"
  , "b瑰% &H<%EXH<Ebr3p3rWdt[ǩ'SMIL,yVdmVcFROWNƌ&mVl8dtIƎ#OV<eyVeYAWNdRECT$GLEƒ'cKISSƪ%cT>S,t[ɯ&LIPS PRESSĪTOGE|*Ɩ#l"
  , "0lHmKcmKlHl0br3CORN*Sɷ(吂$b熃% STICKɸ& F)cLƐ&ǟ#c!TIPs6d媨'uIr3cƅ#儲'MOVES AGA&ST˼%cnWǕ+dƯ#bTEE|cxWcpBǹ%exWdǣ#exWcB"
  , "ITEǰ$bu5JAWb!u4bNECKbHAIRbEXCITEM>Tb.OULD* HIP SP&,党'Sb倫)Ƨ,ȣ#Ğ停)ǆ)典&uAWAISTbTORSO僐+STRET~cxDB>DƠ&ǉ) TWIST&GbmK"
  , "BODYǐ)Ǹ#JO&TSbLIMB 单%ģcL>G|-1+6bF&G*bLOCģǻ)vJb!Ɨ'ǲ*ƫ( HEIGH]WID|cDEP|ct4ʴ#cȦ#:Ƿ#S DIGITSbo4bpRnYbu9bqRbq8ĠDA9B"
  , "=FILL MODIFI*-2+4ƙ$A1=僱'Ɲ+7cƍ(10+6ĒDFĢnPĴF>GrNk;RILLdmXrXGb!kBkCkDmCįmXKbƑ%L(BELTįLEZH(qMlLdmCYƙ%dmX>GdmCR(mPL"
  , "EGkFơ#ĻT(lLĖkBqMCLICK(įE.(kMmHhkFt_!mCT(Ʃ$nHrMnYĜ俍&ĪCcȗ%KįL(zCdDEZHrN(xYlLĲȣ&kFĲ>G(ĻmCRĲR(zCƘ$TESƳ$ĻEZHd!Ǆ'qMĲ"
  , "I(lKƨ$O(ĻƮ%ĻCdS(tAĒE0ĢoTGLAGOLITICkBAZUdBUKYdVED,ƚ%[DOBROdYESTUdZHIVET,ƿ$8=ZEMLJ_IZH,!l6d[DJ*V[KAKOdLJUDIJ,MYS"
  , "LIT,NA.[ONUdPOKOJ[RITS[SLOVOdTVRIDOdUKUdFRITUdH*Uǩ$1B=.T_TS[~RIV[mRdY*UdY*[Y;IƩ$23=pNdkCYUSƐ%6=YOdIOT;EDƗ%!BIG"
  , "Ĳƕ&dFITʍ$1ĢNYIAK>G PUA~UE HMķkBlOepZeNTAelRelAelJeXAeNKAemWelIelTen1eNCAeNTSAelBelQem2eNRAenMeNTXAeƄ#oOelFeQAe"
  , "lNeNƇ#DeXYAeNPAeDLƈ#LAel2eMLAeƋ$Yer7eAemBeIeUeOen8eEeoIeWdȱ#譵%E-BdƇ$MƇ%JƇ%VƇ%SƇ%GƇ%DdkEpGuJf|&Gf凎'f$IM<f&V*TEB"
  , "R;EeXW XWds2L>G|>*ǵ$40=搽>Ƨ%E=LOGOGĳ NYAJdnVmWĒE29ȶ#TOkBlDcl3clRclQclBclYcl:lJcm:l]m0clNcm1cm^l#lFcl??!哼%YcIUƍ*"
  , "^EƎ*EOƍ*:AƜ+AĩuYoYȌ$C0=W$~OkBmBcAȐ#mWȐ$YǾ#nKclIȓ#lDȨ#nCcoȜ%Rcm^n1ȟ#nMȽ#:mTȤ$:m3cl#%?m:^LLH#pZcTR#ķcA$Gc$GcĺpBc"
  , "oƓ$cm2cU>cYIHboYTUPcTUPN?KO?KO&IblS瑍<bɏ#FF=NGUNkEĒE7E0=E|IOPICs2HHY#HHYUƅ#?Ə#Ɛ$EEƆ#ƅ$:ƶ$8=GURAGE HHW#HHWIƅ#EE"
  , "Ɔ$ƣ%Dƣ'MW[MWE,Ɨ#F0=QW[QWE,QW,BW[BWE,KW[KƉ%,GW[GWE,GW,FW[FWE,PW[PWEȹ$8ĢM>DE KIKAKUIs2M001 K[M002lBƇ#3 KUdM065 K"
  , "E,M095 K,M076 KOOdM048 KOdM179 KUAƳ#4 Wǂ$5m1Ƈ#6 WUdM126 WE,M118 Wƈ$4 Wǂ%5 Wǂ#94 WU[M143 WEIǶ#1 WVIƣ#9 WV_M13Ɖ#"
  , "EǗ#7 M&Ɖ#8r8Ƈ#9 MUƐ#59 M>Ȫ#4 ńdM154 MUAƊ#8ƥ#Ɲ$10 BIƈ#1l3Ƈ#2 BUƫ#0 Bɧ%7 B,M103 BOOǹ#8 BOƪ#3 Ƹ$4 AƇ#5 Ʒ#63oIƭ#0 "
  , "EƎ#5n8Ɇ#7 ƹ$7 EIƈ#1nSd!M135ɬ#5 $ʶ#8oGǈ#9 S[M020lTƇ#1 Sǘ$2 Sʴ%6 SEǅ#6 Sʴ$79 Sʴ$6 SIAƳ#5 Lǂ$6lƇ$7 LUdM084 Lɑ$73 "
  , "LEʟ#4 Lɑ$53 LOǛ#0mPƚ$16 Dɛ$7lQƇ#8 Dǂ$9 DȄ$80 Dƺ$81 DOǤ#2 TǬ$3lRƇ#4 TUʻ#1 TEǫ$5 T˄$4 Tȵ$69k1Ʃ#8 JƸ$9mư#30 J˼$7 "
  , "Jɭ%3 Jˈ$0 JƸ%3 JOʼ$75mPƳ#1 YIƈ#2lNƇ#3pNǨ#9 Yǹ$80 Y,M141 YȲ$2Ɖ#Ʃ#4 FƸ$5oƏ$6 FUʜ#8 Fʥ%5 F˧$3 FǺ$88 F˧$7 FUAǤ#1 F"
  , "AǴ$7 NIƉ$8 Nƒ%9oFȾ#7 N>ȿ#9 NOƉ#76 H[M041lAʿ#6 HUƏ#0 HǶ$96oWƐ#2 HȮ$ƙ#ǽ$3ơ#Iɀ#8ƛ#U˔#3 H&ȣ#0 H$Ʀ#7 H價%2 H>ȭ#3 HON"
  , "ǒ#Ǫ#$ǣ#0 NGGȅ$3Ɗ#Aƹ#2Ɗ#Uȳ#5Ɗ#Eʳ$6Ƌ#,M15Ɗ$ʿ%0Ƌ$ƕ#9ƾ$Aƕ#7ƿ$Ǌ$6mPƶ&06mPƷ'83mPƸ'5 GIǪ#1lYʛ#8 ǹ$90 Ƿ%66 GUɫ$67 G冭&4"
  , " NGEɚ$ǫ#ˋ%Ɗ#ɓ%68oɚ$9lDƣ#0 PUȋ#1 P˕$51oHȐ#2 P偄%6 P˝$5 MBIƑ#2 MBɉ$Ɖ#Uʛ#7 MBE,!M188dM07ƚ#,M1Ɖ$ɔ$74 MBɝ$7ƶ#UȲ#1mP"
  , "Ƨ%05mPƨ&42mPƩ%32 KPIȪ#Ɖ#AǗ#4 KPǱ$Ɖ#Eƺ$8Ɗ#ʡ#ƥ#Oʳ$Ɠ#˾$4 GȲ$56 GȲ$48 GȲ$93 GBǁ%7Ɗ#ǝ#1 GBɲ$70 GBȴ$1lFǈ#3 NDIƉ#9 ND"
  , "ɺ$5 NDɃ#91 NDEȀ$9Ɗ#ʟ#7 NDʺ%4 NDȒ$2 NJAƯ#Ɖ#Uȉ#9 NJƸ$34 NJOʙ$2 VIƈ#5nMƵ#1 VUȅ#3 V冝%5 VEƼ#4 VȨ%7 Vƹ#Ǩ#Y&ɩ#8 NY$ƶ#"
  , "0 NYUNɫ#Ɣ#>Ȑ#Ɣ#ONc=1E8C7=lS涁:oTm7TE>SeT>SeHUNDREDSey7e!mEe!nUeMILLIONSĒE9ĢADLAMĨ<IFdDA<[LAAMdMIIMdl3dS&NYIIYH,"
  , "oHdBH,lFd,oOd[Odn0dƚ$7doFdqFdlNdUdJƻ#q6dl_QAAFdlYdm2dTUdNH_nMdm3dGB,Z<dKPOdmRħȁ?ȁ~<IF 墕)b!lMbzYkRbpMbrFp0ĖGEM&"
  , ";EbrAbNAS<IZģkRbˍ#50=坏B95E=l6q7kRc!qNĒEC71=&DIC SIYAQm7俤9dm,oKdrHdsUdpQds9ds5dtZds,kJnUd!k[!kLd!kNd!kQd!kYd!k4"
  , "d!k0d!k5dkJp9ƭH!m,!oKd!rHd!sUd!pQd!s9d!s5d!tZd!s,LAKHƅ$$cƇ#kRcm7K)ORdƆ$$dPREFIXED笡:PLACEHOLD*csBkJqAel9dkLvBcR"
  , "UPEEǖ$sAǂ%mEp9csAǮ%ĒED01=OTTOM$˔$˔~˔~%M)R;$csAm7ʳ6emEekNnUe!Ɩ#Ip9e!mEʾ$l9eSIX|ĒEEĢtNy1lPcr6cm#D<cƘ$5=o7ct3cl2c"
  , "qScl^qFco8ck6co6cqJcpVcrDcr%q]qYcsFcsHcvPcnLc|<cs?ZAHcs8cuGr6do6drDdqTǝ$21=l6r6dm_Ə$4=qGƊ%7=l2Ɗ%9=lUdqFdo8dkƿ$"
  , "qJdpVǅ#r,qTƥ$34=sFdsHdvPdnLƓ%9=sIƊ%B=s8ǯ$42=TAILEDǰ&4Ǧ(4Ǧ#Ɗ%B=o8Ɗ%D=Ǯ'Ɛ$51=ǲ)5ǲ#Ɗ%7=ǳ&5ǳ(5ǳ#Ɗ%D=uGo6eƌ$F=ɸ&61="
  , "徣(ɿ)6ɿ(6ș$qSdɻ$Ɠ%C=ɿ87ɿ17Ȍ$ZAHds8duGrȂ%7E=rDȂ$ĹLOOPEDlPdȂ%D<dqGdo7dt3dǾ(Ƭ$B=˽7qYdǺ+|<dǸ&˴&A1=vUǢ)Ɠ$5=Ǧ2AǦ[F0=q"
  , "Pk6(l2k;;WEELdl2(D<Ŀ0ĢMAHJķ TILEoQW&Dc!oCc!n7c!n3cRĪDRAGONc!GRE>c!k^kJlE~)ACT*SĜkIĜkLĜkNĜkQĜkYĜk4Ĝk0Ĝk5Ʒ$BAMBO"
  , "OƴM柕%ƴIPLUMcOR~IDcǰ$:~RYS$|EMUMcSPRĺSUMM*cAUTUMNcW&T*cJOK*cBACKĿ030=!DOM&Oʩ$mGcHORIZONT<-00-00+6Ɠ,1Ɠ12Ɠ13Ɠ14Ɠ1"
  , "5Ɠ16Ɠ%k9ȣ#cV*TICȊ)Ƒ*1Ƒ/2Ƒ/3Ƒ/4Ƒ/5Ƒ+Ǿ)Ŀ0A0=PLAYıC)D Ȑ$ACElESPAD侯IĜmEĜJACKĜrYĜtSĜsWcǨ#B1=ǖ$HE)TǖdRĪJOK*Ǡ$CǠ&DIAń"
  , "DǢdkSǠ)DǠ&CLUBǝeUǝ%FOOLcTRUMP-1+8Ɗ'0+11Ŀ10坩%pRnYco4b!kJb!kIb!kLb!kNb!kQb!kYb!kƣ$0b!k5aD&GB;nV磐%ĸtGanVl4(uObtEk"
  , "PbDOLL)kE(OV*LAIDyOaz2nPĨ纆RawMuPBRACKETEDǇ%SanVv8ƌ%CfRbCDbWZaCOPYLEFTlGap1ǰXbHVbMVbSDbSSbPPVbWCatGnVǑ%绗Raq9MCk"
  , "Eb!MDb!MRanVCCbCʡ+bHUM$郉&atGp1ǯYwTǀ)Pǌ$IC挭$]ABcWCamDDJap1CLbCOOLbFREEbIDbNEWbNGbOKbSOSbkZ(q7kRbVSbkLDb軙% SCRE>"
  , "bkIK倪(0bkQvKkJĖk4b軥&TWOvKkIbs9Pb軾%oKbnPĴDbHCbHDRbHI-RESbLOSSLESSb.VbUHDbVODaMASK WORKlGĿ1E6=R蠇$<xIlG偊UmDzJHOKA"
  , "ap1vZKOK:lTĠF210=CJK UNIFIĪIDEOGRAPH-624BdƏ)5B57Ə+3CCbvZDEbƾ54E8CƯ+91AƏ*89E3ƞ,29dƼ+A4dȉ*620Ə*7121ƞ+599ǋ+24DƏ+F"
  , "ȇ-18DƼ,B0Ƽ,1Dǩ+D42Ə+51FɃ+CAǸ,8Fǋ,439ǩ+F1ɒ,295Ə+355ɿ,00Ə-ǋ+904Aǩ+DE6ƭ,2ɿ,3F3ǩ,07Ƀ+D70Ȗ,53ɰ+981Ə+A7Aɡ,08Ƽ+E8ǋ,70"
  , "9Ə-8ˊ,33˷,72Ə+5B6ɰ+14DĿ240=匏, 傷672Cfʾ-Ə,8ƞ+5B8ƞ+70B9fʑ-ƞ+6D7fȷ+DDƭ+557Ŀ250=nVƘ( ADV$TAG%ACCEPTĿ260=wOlGpGFUdLU"
  , "d.OUdX[.U$GX[CAIĿ3ĢCYCLONEaFOGGYap3UMBRELLAaNIGHT(ST)SaSUNRISElHMOUNTA&SbaCITYSCAPE ; DUSKƦ#SETlHBUILD&GSaRA&B"
  , "OWaBRIDGƩ$Ǘ$avMsGaVOLC$OaMILKY WAYavLGLOBE EUROPE-AFRIC#AMEƈ#ScASIA-AUSTR<IAaƬ$kƞ$DI$SaNEWuBlGĕWAX&GzGĕFIRSTqA"
  , "ƕ( GIBBOUSĕpRĕW$Ɩ-LAư'$ǅ%zGuBǝ%(mQĦǔ(4ƭ#ĦǊ$SUNaGņ&GrQ@.OOT&Ga|*MOMET*ĮDROPLETakUSUNc(kCCLOUDc!BEH&Dek)A&ĦcSNOW"
  , "cLʲ#NĺTORNADOaFOGaW&D煅'mQaHOT DOGaTACOaBURRITOa~ESTNUTaSEEDL&GaEV*GRE> TREE@DECIDUOUS@P<MaCACTUSǐ$PEPP*aTULIPa"
  , "~*RYǲ#SSOMaROSEaHIBISCU借$Fņ*aƠ'E)lEMAIZ%RICEaH*BakNLEAF CLOV*aMAPLE ƒ#@F<L>aƠ$狵)nSW&DaMU.ROOMaTOM;OaAUB*G&EaGR"
  , "APESaMELONaW;*Ƌ%T$G*&EaLEńaB$$AaP&EAPPŇRĪƊ$@ʑ$aPE)ƅ#~ɬ%IESaSTRAWB*RYaHAMBURG*aSLICElEPIZZAaME;pBBONEaPOULTRY L"
  , "EGaɴ# CRACK*bvSaCOOKĪʋ#@CURRYkFaSTEAMıBOWLaSPAGHETTIaBREADaFR>~ FȊ$ROASTĪSWEET POT;OaD$GOaOD>aSU.IaFRIĪ.RIMPaF"
  , "I. CAKE(SWIRL DESIGNaSOFT Ƞ%EAMa.AVĪȚ#ƕ)DOUGHNUTȹ$IEa~OCOL;EmHaC$DYaLOLLIPOPaCUST)DaHONEYȚ#a.ORTǹ#aB>TOq0aPOTl"
  , "EFOODǐ$&GaFORKkFKNIFEaTEACUP WI|OUT H$DŇSAKE BOTTLEkFCUPaW&E GLASS@COCKTAILaTROPIC< DR&KaBE* MUGaCL&Kıƒ'SaBABY"
  , "ǒ&Ȁ+(PL;EaǬ%(POPPıCORKaPOPCORNaRIBBONaWRAPPED琈$>TaBIR|DAY ɯ$JACK-O-L$T*Na~RISTMAS六%FA|* Ɩ(aFIREWORKƊ) SP)KL*aB"
  , "<LOONaP)TY ȓ#*aŁFETTIvSaT$AB;AǛ%wTFLAGSaP&E DECORģayRDOLLSaC)P STREAM*刻%~IMEauBVIEWıC*EńYaS~OOL S;~ELa瞃$ģ CAPa"
  , "rBk;IPpBpAkHaBOUQUETlEFņ*SaMILIT)Y MED<aREM&D* ʿ&vEKEYBO)D(ʭ#SaSTUDIO MICROPHO冱$VEL SLID*aw4KNOBSaBEAMĪASC>D&G"
  , "v>OTESĖDEƔ'aFILM FĳESaADMISSI鮁$CKETʄ$OUSEL HORSEaF*RIS WHEELaROLL* COAST*aFI.ıPOLEkFFI.aȡ*MOVIE CAM*AaC&EMAaHE"
  , "ADƞ%)TIST P<ETTEaoRH;aCIRCUS T>TaȐ%aCLAPP* ʎ$aP*FORMı)TSa嗡$ GAMEa磕% HITaSLOT MA~&EaBILLI)DSaƧ# DIEaBOWLʉ$ņ* 師+"
  , "Saʳ%avYʼ&aSAXɒ&GUIT)侞*a峙$ETaVIOL&avESCOREaRUNNı.IRT(SA.aT>NIS RACQUETkFvSaSKIkFSKI BOOTaBASKETB<LkFHOOPa~EQU*Ī"
  , "FLAGaSNOWǶ$*ǡ$*aSURF*aSPORTS偌$凩%HYa侾$Ǯ#&Ga嘚%$ FOOǢ$@RUGBYaSWIMM*aW疸$ LIFT*aGOLF*aƾ% MOTORCYCLEbC)aCR侚$ BAɆ%VOL"
  , "LEYǖ$FIELD HOCKEY矃%Ƣ$ICEƕ.PUCKaTABLE ʘ&PADDLEʗ#ɩ$ C剁$xTaCAMP&GaBEA~(坸(圽' CO顅$CīaHOUSE Ɯ'S坽)aD*ELICT ƣ-@CLASSIC"
  , "<aDES*TbISL$DaNģ< P)KaSTADIUMǢ.b(G)D>aOFFICǘ*yRPOST Ɨ%ĕ垬%Aȣ#SPIT<aB$KaAUTOM;ĪTELL*傸(HOTEL@LOVEaŁV>I>CE STORE剿&"
  , "a镜%M>TƘ&FACTORYaIZAKAYA 卥'yRCASTLE@Ȋ(kUP>N$T@kSaWAV&GkUFLAGb!kS嚾$TTEƟ%LABEȵ#DM&TON僊).UTTLECOCKaBOWkFkPaAMPHORA"
  , "aEMOJIp0FITZP;RICK TYPE-1-2dƉ$3+3aR;aM˗#aOXavMBUFF<OaCOWaTIG*aLEOP)DaRABBITaC;a揼%aCROCODIŇWHAŇSNAILa縖$a勁%ĳaGO;"
  , "a.EEPańKEYaROOST*a~ICK>aDOGaPIGaBO)aELEPH$TaOCTOPUSa膧%uPaBUGa$T嗅%BEEaLADY BEETŇFI.@啪'aBņƔ$łTŇH;~ıǵ$@BABYĕFļT-F"
  , "冫%BIRDaP>GU&aKO<AaPOODŇDROMED)Y協$L@BACTRIAȾ#LPH&˅%mQ@COW@ʾ$@ʸ%@C;@ʼ&SPOUTıWH<ʯ$ƽ&ʤ%@DOG@PIG@FROG@HAMST*@WOLF@B"
  , "E)@P$DA˃#繋$aPAW PR&TSa~IPMUNKar5aEYEaE)aƤ$r3a筵%akUkZqUBACKH$蟑%k7ĞkHĞkG˚#TEDrIkEĕ傧%ĕOK@|UMBSkZb!k7@吰$ıH$DSĕmVaC"
  , "ROWNaWOM$S H;ȇ#圡$ESaNECKTIEaT-.IRTaJE$SaDRESSaKIńOaBIK&Iǀ'CLO|ESaPURSEaH$DBAGaPOU~aơ$.OE@A|LETIC@HIGH-HEELEDǆ'"
  , "S$D<bBOOTSaFOOTʭ&BUSTnSSILHOU养%2BUSƙ#OYaGIRLar8Ǆ%aFAMILYar8kFƑ$ HOLDɺ+kIM>ĖWOM>aPOLICE劐%*Ǆ%(BUNNY E)S屼$E(VEILa"
  , "uJ(BLOND HAIRar8(GUAoNMA:łB$aOLD*r8bȍ%僋$厊+愺$*aPR&Cˍ#yROGREbGOBL&aGHOSTƶ$ $GELaEXTR;*RESTRI< <I>a<I> MǙ#*aIMPaS"
  , "KULLayFDESKuJaGU)DSM$aD$C*aLIP呥$aNAIL ɶ#.amQMASSAGEaɐ#CUTaB)B* POŇSYR&GEaPILLaKISSkRaLOVEkBamMaGEM STONEƛ$埌'aC"
  , "OUPLE(rBaWEDD咣%;&GrB@BROK>akI昜%a墲%ƞ'GROW&GarB(kPaBLUEƘ&E>@YELņ@PURPLEƨ$堜&REVOLVıǚ&rB壊*qI.APE(AkOuIaELECTRICl7B"
  , "ULBa$G*lGaBOMBaSL鷨%lG@COLLISION@SPLA.ıSWE;a嶉'q5lGʤ#ElEPOOaFLEXĪBICEPSaDIZZYlGaSPEE~ 妘&@|OUGHTakU峻&nUPO&TSlGaM"
  , "嬌$BAGaCURR>CY EX~$GEak8旇'aCREDIT C)DaB$KNOTE(Y>k%!Ƨ%c!EUR:!POUNDǛ%(W&GSa~)T(lZTR>DkFƻ$aSE;aP*SON< COMPUT*aBRIE"
  , "FCASEaM&IDISCaFLOPPY DISKaOPTIC< ƙ$DVDaFILE FOLD*副%PAGE(tAb叓%kZaC<>D)@TE)-OFFaC)DnAț.c!lWamH~)TaCLIP壸&U.P&@xFa"
  , "PAP*Ɯ#arGRUL*@wHaBOOKM)K TABSaLEDG*aʫ#ƙ#b(倦'VE COV*ap3ƚ#@mV偻*BLUE@OR$GEǕ$SaNAME BADGEaSCROLLaMEMOawJRECEIV*ɴ#*"
  , "aFAX囀(S;ELLITE $T>NAaPUBLIC AD卞$ LOUDSPEAK*a~E*ıMEGA奭%OUTBOX TRAY@&BOXaPACKAGEaE-MAILlGa&COM&GySayS(lWkPkKap3"
  , "Ɵ#BOX(ņ奂(d!q9ĤmVd!ƙ&aPOSǨ#ƈ$<rOaNEWSˢ$aMOBILE ȏ#%(kWkP;kHaVIBR肇(EƧ+卟$ao0Ɠ+Saʀ&(B)Sa嬑%b(FLA.嫂%嬦'TELEV冇%RADIOƞ%C"
  , "AS垇$容%PROJECTORaPOR奃%ST*EOaPRAY* BEADSaTW唴$kWyD@uUkWkFk2mVl8h(nVkJwNblWkFlZƔ#ƥ#6tEal1BR慇$ESSlGĕmNa侤&(z7lKbb(kJ"
  , "u0sGckLu0WAVESaB;T*Y剮( PLUGasYMAGNIFY&G庐'2rTaLOCK(&K P>ap3Ɛ%KEY@Ɲ#傒&BELLbǵ%僛(aL&KlGʝ% BUTT悴$CK(k2kPkKĤpFĕpB栻%("
  , "kHkGĕSOON(kWĕoR(lZao0kJUND*w2lGaKEYCAPmEa&PUTlGpGnPkDLETT*Se!kCdNUMB*Sd贾&dnPƟ%店%ɽ)TOR~aWR>~aHAMM*aNUTkFBOLTaHO"
  , "~OaPISTOL崮%SCOPE俻$Ɗ%CRYST<vSakYrVrQ(lCkOayRȖ#BEG&N*aTRID>T EMBLEMĮmDʐ%ĕkUam6REDl8b凐%b凎%qIƐ&@kCƔ%ƒ'uƱ#oUĕwEĕu6k"
  , "CĦwEal0kGyTkUl8ĤmKanVp5POMMEEaƉ'(讛+VcaNOT~EDkHSEMIƗ%(kLlXĸkGaɉ#M)KS ~APT*akUnPp5ĕk8@CELTICaOMlGaDOVElEPEACEaKA"
  , "ABAaMOSQUEaSYNAGOGUEaM>ORAH(k5BR$~ES巣$lEHYGIEIAaCLOCKmQkJOƊ$c!k?!kLc!kNc!kQc!kYc!k4c!k0c!k5c!m%!vGc!uZcONE-|IR"
  , "TYcTWOƋ'|REƘ(FOURƌ(IVƘ(SIXƋ(EV>ƍ'嵷$ƍ'NIǡ*Ƥ*LƲ+TWELǘ(akG冟&c冘'd冘*ULLHORNb(Ɠ'R&GıBELLa叿$C$DŇM$TELPIECE ʥ$Į坫$kFCRO"
  , "SSB勋$o0PIRACYaHOŇr8nSBUS&ESS SUIT LEVIT;&GaSLEU|m8SPYaD)K SUN奵'SPID*bWEBaJOY垯%r8D$C&GĭrI呛*Ƌ)(PAGEakGƠ,kUTOU~TO"
  , "NEwJĕkSawJpBoRlEMODEMaCLAM.ELL 厘+券$lEyS@STAMPEDayS(晇(aFLY&GyS@P>lHƦ'L&KĪ喇(SĮ喡'l0kHP>CILcB<LPO&T P>c!F栓&cPA&TBR"
  , "U.cCRAYONĭ餬&rIamCOK嫪$q9rI(tLSPLAYEDa/5mXb嫯'k%!k7bVI巯$rIbrI(lCF&G*xMƾ&P)Ts6lCkFmMtLakUk7qUˠ#nA@xNkUkHqUĜkGbʺ#kH"
  , "ƌ$@ƌ#宓)ĞkGƲ'ZƲ%7Ʋ%Zƌ$@ƌ#Ʋ-7brBaDESKTOP坠)招(F巴%kLNET娮$Dƥ(SaPR&T*aPO恭$C<CUL;ORak.)DuP垕*ĤkUĦSOFTaTAPE C)T楌$aWIRĪǵ'"
  , "akJ匧% ǽ$ĕkIĕkLaTRACKB<LaoZ堕1H)Dǫ%湿%Ƞ' IŁ@FAX@堜-OCUM>Tk;EXTdkFPICł%!ĕFĳ%TILESc$ XĮ塄%@@mV堡&DIVID*SbFILEq0塮%CAB&E"
  , "TaEMPTY NOT%PAG%PADaƎ#bPAGƅ#DƢ&ȋ'Ƙ'GESȟ(aƏ#aƔ%WASTE抈%廴&ǝ$ PADb!壆'俓(W&DOWaM&IMIZEaMAXƉ%灖%PauUkGkF吇+yDaz7Xa&CREA"
  , "SE FONT SIZElGĦDEƗ%a˸#RES圊$oZKEY摻%D-UP 垡(ȵ$(nVˠ#aSTOCK ~)TaDAGG* 朷$少$囅%&Gt4嵞,kLRAYSkKckVckHckGĭ嫂'UBBLEĕƕ#Iƕ,Sĕ"
  , "kLĭ嫜&Ƭ+@kH$G*Ə'MOODĕ檟)暵%Tq0(Ɗ%brXXĖq0(ĖrCĞq0(al7wDkRƯ*rCwDaWORLD MAPa汥$ FUJIaTOKYO TOW*aST;UElELIB*TYaɰ)lEJAP$"
  , "aMOYAIaGR&N&GmQc(tJr5amQk;E)SlEJOYatJmQ(mVr3fkFơ#gCOLD尖%gTɐ#LY-CLOSEDr5dH<OdHORNSaW&KǙ$ǃ$ǝ(SAVOURıDELICIOUS F"
  , "ʞ#RELIEVEDƱ(HE)T-.APǛ$吻+MIRǜ%@rW@EX倫'LESS@UNAMUSEDɏ$Ȳ)aP>SIV愠'NFƤ#Ƌ&OUNDED@KISS&GamQ|ROWıA ƕ#aƚ&ɏ'd!p3Ǣ$STUCK-"
  , "OUT 蹃&kFʀ& EYEfʨ/aDISAPPO&Tɱ#@WORRIED@$GRY@憙&@CRY&G@P*SEV*ȝ%k<OOKlETRIUMPHǔ, BUT ˒*迢$&G俌'a$GUI.Ǿ&FE)FUL@WE)Y@"
  , "帙$Y@TIRED@GRIMAC&G@LOUDLY Ș&ǔ(HUǑ%ƒ(kF˺)bSCR毂%nSFE)aASTONȃ*Lƾ$@应'@幑$amQ櫯&r3b(MEDIC< MASK傿( C;健(C;僅0C;Ȗ'e偙+Ư)WR"
  , "Y SMIL忣%ǔ*p3r5aPOUTƔ(ĕɼ%ĕʱ)俤% ˫'b!tJ@UPSIDE-DOWNʙ#)OLL&Gr5co0GOOD GESł%!OKauJBOWıDEEPLYaSEE-NO-EVIL 掓(HE)Ɩ'@勘$"
  , "Ɛ(HAPPYuJRAIS&GkJrIaƎ( BO|戜%nSCELEBRģbȵ((ɪ&mQc和$DƯ%an3n7qU溂%3oCĕn3oQƌ'mCƠ#bƎ#bƚ%ƌ$@Ƹ%V&EĤoCĦƸ#ƌ'k8Ƹ$Ǝ#bƚ%ƌ$Ǯ&B"
  , "UDǭ3k8ǭ5HOLņ QUILTmDvCenSkSmDaSOLIDƗ1k2R噘$@lZ@kW@lWarXqOETvCĤk8ĕqOmVƌ$b!yLĕSWA.@vXk8kMmCo4u8kRd/4c/5l1@k8&T*RO"
  , "B$GĕvXɫ$atBk8rLc!rKa~ECK櫔'ĕrKaȏ&HELICOPT*滵% LOCOMOTIVEaRAILWAY C)a摒$SPEĪTRA&c(v7敕$Ə$aMETROal7R朎$TģaTĳbC)aBUS@O"
  , "弼&aTR槂%USƚ#nYaM&IƎ#AMBUL$CE峢$ >G&E摉'C)ĕǅ)AXIǕ*棘$奯%Ɩ+RECREģ< VEHICŇDELIV*Y TRUCKa)TICUL;ĪLORRYȹ#廱$ńOɒ$xTʍ&@SUSP"
  , ">Sɡ#xTCABLEƘ#A*I< TĳƏ#.IPaROWBO;aʸ$Ɗ$mGTRAFFICl7ĕk9擂,kɫ+S 捸(l7awHFLAGpBPOSTaDOORao0>TRYkEaSMOK捖&2o0@PUT LITT*n"
  , "SITS 茙$@DOn5Ƙ%@POTȻ#vMĕNON-Ɛ&aBICYCŇo0Ɗ&SƓ&IST@xTaPEDES标%o0ƍ)Sa~ILDR>pTaM>SlG@WOM>SaRƥ#OOM斁$lGaTOILETavM咥$Ta."
  , "犥%A|ƅ$TUBaPAS汨$w4烋$OMSaBAGGAGE CLAIMĭLUƐ$aoU(wO闠&aPROHIBITEDkEanVyFSOURCEaBOYȕ%GIRLSaCOU~kFLAMP撛( ACCOMMODģa."
  , "灳&BAGS怡$HOP峋&EDa˙$lEWOR.IPaOCT鵅%kEƺ)僬&aSTUPAaPAGODAaH&DU TEMPŇHUTaELEV;ORĿ6DD繍$GROUND潱%a漏%mMBUOY忤&kF忳&.IELDaOI"
  , "L DRUMa洿$WAY凁(婪$Ɨ% BO;au6瀐(AI镒&!b!kCĕ@NOR|EAST-PO&T&GaƩ' DEP)łEb)RIV&GĿ6F0=掂(a冀' 凈+DIESEL剢*俣$>G* ˁ$SCOOT*@Ȭ$aC"
  , "$OEaSLED崛& SAUC*aSK;EBO)D凷$ RICK.AWaPICKUP凘%瀽'ƭ$Ŀ7Ģ<~EMIC<lGpGQU&TESS>C,AIRdFIR,vLdvMdAQUAFORTISƋ$ REGIAeƆ$-2e"
  , "VITAEƆ%-2dV&EG)ƈ'ƒ)-3dSULFURd!PHILOSOPH*Sd!kSdM*CURY SUBLIM;EeƊ(-2ƌ*3dC&NAB)dS<TdNITR,VITRIOLƈ'-2dROCK S<TeS<T"
  , "-2dGOLDdSILV*dIļ OREeORȳ#CROCUSlEIļĲREGULUSdCOPP* OR,!Iļ-ƒ%dȎ(lEƒ%ĲǄ%fƐ%-2ƽ'$TIńI;EĲS<TlEǀ+S<Tǆ(V*DIGRISdT&Ǹ&L"
  , "EADd!ǈ&YƼ+Ɣ'Ǚ&ĻƝ*Ĳ˸&ɒ)fƲ'-2edƔ&-2+2d<K<IƇ&-2dM)CASIT,S<-AMɂ$Cd)S>ICdRE<G)ƈ&ɮ#AURIPIGM>TdBISMU|ɀ$T)T)Ƈ$ƨ$QUICK "
  , "LIM,BORAXƆ%-2ƈ&3d<UMdOILdSPIRITdT&Cł,GUMdWAXdPOWD*dC<XdTUTTYdCAPUT MORTUUMdSCEPT*lEJOV,CADUCEUSd掲&d!ST)REDdLOD"
  , "ESTON,SOAPdUR&,熹%DŃdA.ESd!POTdBRICKd!ǽ$ƽ#AM<GAMdSTR;UM SUP* Ǝ&fƈ&-2侮&ģdPRECIPIT;,DISTILLƈ#SOLVEƉ(-2dPURIFYdPUT"
  , "REFACīdCRUCIBLEƉ(-2+3d<EMBICdBA|lEM)YfVAPOURSdRETORTdHOURd竎$dDAY-Ɗ%ń|dl9DĳeOUNCEĿ7ĹkSsYISO墢$SkGoUĞu6ĞrTĞwEb奭'k"
  , "Cl8@mZrCkUĦ搽&3tBĦzB@kUl8yJkSkCaxFT)GETĮT&YmDb!ǉ)@l7kUĕmZĕrCǌ3mDǌ#tBkCe!mZamDǓ,qIb!ƞ#bǆ&kUqIƲ%ư%qIư,x3ư0x3ư#a|&"
  , "sSp5ĕl7Ȕ)ȏ$bș#Ȕ%|& S<TIRE@l7@mZ@rC@k8ĕtBĕzBal7kQSPOKEDrUĦmZĦr妃%ĤtBĤzBǯ$kYƠ>0Ơ2ǡ$LrVkSrQĤmZĤ@mZƕ#xU˞%NƠ#ƞ-Nƞ%4r"
  , "Kl7@Ȧ#ƥ&k8ǧ$kYƌ$@kYǊ#Ʒ%0ƥ*5tB@k8k0Ǫ(uZƠ(d!xUanVoUĕ萦$mDƊ$Ŀ7E0=m6朅%l8b浴'b權&b浼'b!BROWNbREDmD村'!ƺ%ƸAĿ7F0=k8pXkEĿ8Ģ"
  , "k2kP(kCoUr9a/5lZa/5kWƊ#Wĕƞ%mZƚ86ƚ.Ŀ810=!Ǚ'EQUIL;*<ǆ7ĤlZĤkWĤlWʳ$k2bƖ#bƖ#bƖ#bǴ)bǈ#bǈ#bǈ$k2qƚ#$)ROW .AFTǬ.@Ʀ'mZƜ9"
  , "rCƜ9k8ɀ1Ɯ'tBa/6Ɯ#6Ɯ#6Ȕ$F&G*-POSTkPĕlZĕkWĕǗ&p1Ɩ3扲'EDƞ,ʯ'8ĦlZĦkWĦƴ&k8Ƭ.Ŀ85侇%vXǉ1岼%2oQa峁'7ĕ檣&kZk7Ŀ860=!WIDE-HEADE"
  , "Dk2l7n4bȁ#bȁ#bȁ#Ğǎ#c/崸'c/ǝ%k2bǸ#bǸ#bǸ#bǸ%Ĝ崭&Ĝƪ&mZǖIk8ƬF3k2tB偆04Ƭ%4Ƭ#5Ƭ#4nɮ%90=k2oUr9˸4UkPWI|&倅/傕%橩&o5僌/k8kP.AF"
  , "T WID|遦$xBekJl9fwCak2B遞$-.ˢ#ǧ#Ǻ$pUƑ%aɆ#oRĤkȉ%LEFTƭ&Ʃ$R榸$ƭ*Ɩ$Ʀ.2BACK-TILTEDyTǍ&3k痱%Ƙ&Ɩ%kUȯ3Ŀ8B0=kPqUlZ|>˅$!kW|>"
  , " CURV&GoCĿ9ĢnVp5FORMEE(kNlXe!k[ĭl9l8Ɠ)LƘ$ekOdaDOWNW)D 炬%lLc!˕&clL(k:/3Ƒ&aP&~ED桉$狥'WNƗ%梽%ZIPP*-MOU|癋'EYƐ%amQ(臣+"
  , "N*DmQ@|&K&Ga揻&D-B$DAGEaROBOTmQ@HUGG&GakElEpA摧%C<L MErI@q9槐%aLEF睍' FIST@z6aH$D.AKEarI(nAkFlCtLwTaI LOVE YOUrIkE"
  , "搳&WBOY H;aCņNmQ@NAUSE;EDa懅&pBpAFLOOR LAUGH&GaDROOL撜'LYɒ%P<MaSNEEZ&G挡&kJEYEʽ#q9斆*(rQr5dkJm6kFkJkCEYȑ%F&G*熶%&Gp3"
  , "曓%*IOUSmQ(溓&Ƣ(r3ĕ敻)kFrI掙(VOMI殡%箓$DmQ(EXPLOD&Gt4aPREGN$T 痙&R屸$FEED&GaP<MSkZTOGE|*aSELFIE痦%民%TUXEDOaMO翆..RUGauJD"
  , "OıC)T嵅%JUGG綎%>C*aMOD*N P>TA|L聍$ESTL*SavMPOLO睵%<LaDIV&G搏%WILTĪ瑥&DRUM(Ɔ#汞$S胨)晉'TUMBL*Ɛ%aSPOONaGO< NETaRIFŇ蒿$徰%絝%"
  , "ĕ誅%ĕwCaBOXıG箣$M)TI< )TS蜐$ORMaCURL&G癀&LA测$E紛)艥$B<L嵒&樺%CROISS$TaAVOCADOaCUCUMB*aBAŁa苘&C)R縹$G柞$ 茐%蒸%S<ADa.<ņ P$艙&"
  , "STUFFʨ$;ư%EGGaʅ$lEMILKaPE$UTSaKIWIFRUITaP$CAKESaDUMPL芗&TUNE 苷&TAKEOUTq0a~OP˲$澃%(˙%CUP(萦$aCOŁUTaBROCCOLIaP偀$ETZ"
  , "ELaCUTlEME;aS$DWI~aC$NĪȽ#蓷$Y ɡ$aM$GOauBȚ#ʃ#ELa僲+kL真&YAWN梌*;E)amQ(P)TYrOkFƉ$ HA]UNEV>ƿ#WAVYr3aOV*HE;暩'R凇%aN&JAa"
  , "DISGUIS書&祿&遭$ TE)Sb(PLEAD&Gr5aS)IaLAB CO;aGOGGLESaHIK&G耂%FL;稿%CRABaLIONmQaSCORPIONałKEYaUNICORƚ#EAGŇDUCKaB;a.)"
  , "KaOWLaFOXmQaBUTT*FLYaDE*aGORILLAaLIZ)DaRH&OC*OSa蔉&SQUIDaGIRAFFEmQ@ZEBRAaHEDGEHOGaSAUROPODaT-REX耉'aK$G)OOaLLAMA"
  , "aPEA縋$HIPPOPOTAMUSaP傫%RACCOONaLOBST*燌%ITO猊%BEaBADG*aSW$aMAMMO|aDODOaSLO|aOTT*aOR$GUT$aSKUNKʸ#MI藣$Yǖ$BEAV*aBISO"
  , "NaSE<aGUIDE 緥$ROBıC$E纞%淥$ON>T RE竱%c!rZcB<DckUƑ#aB荳%G箬$aTOO|aSUP*H*OƊ%V˞#&aSAFETY VESTaE)(HE)ıAID懶%IZED荒%Cǝ#@M$"
  , "U<aME~$IC< )Mbǰ#~EESE WEDGEaCUP僯$S<T .AKɭ$V*AGEq0aG)LICaONIONaF<AFELaWAFFLE倍&aM;E蘃%蛆%UBƛ#B膉%A昋%aST$D&GuJ@KNEEL"
  , "&G@DEAFamQ(ńOCŇADULT摩%簐% ƒ%BE)DEDuJauJʀ$DSC)FbnS曖$Y ROOMbCLIMB&GbnSLOTUS POSIīaMAGEaFAIRYaVAMPIREaM*澖%aELFaG>I"
  , "EaZOMBIEaBRA&a宐%rB菱$ED薆$Ƕ$a厠$SaCO;aSOCKSaRĪGIFTy疼%袁&aJIGSAW PUZZLE 猌$aTEST Tʧ#PETRIuSaDNAkMHELIX溧$ASSaABACUS朦&"
  , "XTI歡%*aTOOLBOXa徾$ɗ#NETa攧'LOī蝪&咂$LlE|厕$vSlEY)偎(P&aTED聭$)aBˁ#萲&嚑$lE漓%mHlESOɻ#PķEa猦$PTaNAZ) AMULETarWr2sWctScvQcv"
  , "HcrYcvRakUr2rYsCFORTY-FIVE DEGREESa/5kƅ#rW@kUƽ#sCs%/3tSc/3vQƅ#Hc/3rYƊ#RĦkSǣ#Ƣ;rWƢ<@ȑ'kJnU|IȖ'a/7Ȏ#7rWȳ$mCsWdtS"
  , "dvQdvHdrYdvRĮƘ5rWư5Ǫ(InUTW>ʀ.ǲ'ʀ*Ƭ%s5c/5ɀ#5ɀ#5ɀ#5ɀ#5ɀ#5ʄ%Ƣ;rWƢ:ʄ-LnUw7ɻ.EQUIHOPP*ĕkSĕƙ0sCsE俆.Ƥ&KN嫃$QUE>cƍ&ROOK"
  , "ƌ'BI.OPĮƫGĿA60=XI$GQI RĪG>*<cM$D)&c荛&]HORS%~)IO]C$NONcSOLDI*bkSƹUĿA70=B<LE啋%SaONE-盘%SWIMSUIT緣%S讁%Sa|ķ膒&ǂ%8=DRO"
  , "PlEBLOODaADHESIVE 媖'STE|禸&X-RAYaCRUT~ĿAĹYO-YOaKITEaP)A~UT絊$M*$GaMAGIC W$DaP&;AaNESTı誆$ĿA90=R&GĪPL$ETa吪%RAZORaA"
  , "XEaDIYA 椭$B$JO詒)HELMETaACCORDIONamP梇$CO&aC)P>TRY SAW瓋$WDRIV*aLADD*alLaMIRRORa珝&PLŃ*aSEWıNEEDŇKNOTaBUCKE薺& TRAP"
  , "唘%BRU.觪$壶$榗$)D泣$ǝ&vSaID>TIFICģ Ƣ$l1籊'HAMSAĿAB0=FLYaWORMa蕨&COCKROA~aPOTTʣ&TaWOODaFEA|*a呑$aCOR<甦&ˤ#˩$(EGG˦%C0=$;"
  , "OMIC<rBaLŃSaPEOPLE 屲&嬑(r8b哑&C懘'AD0=BLUEB*RIE檓%透'OLIVEa奧)TAMAŇFONDU跌$POTaP猐&LI坼$BE$SaJ)ĿAE0=MELT屑'S<UT煵)寗%lHr3c"
  , "PEE牯&%pCr3aqQnJmQaBITǝ%P嗤&ɶ%F0=rI(n屘&kFnBwTakWrI@k2@P<Mk7b!kZanAqU;pAVIEW*arBH$DSĿBĢsPSEXT$T-1bƊ'2bƔ(Ƌ)3ƕ)3ƪ)"
  , "Ɩ*ƌ*4Ɩ)4Ƭ)Ɩ*ƌ*34Ǚ*Ʈ*Ƙ+ƍ+5Ɨ)5Ʈ)Ɩ*ƌ*35ǐ*ƣ*ƍ+45ȭ*ư*Ƙ+ƍ+3ƙ+3Ʋ+ƚ,Ǝ,6Ƙ)6ư)Ɩ*ƌ*36ǟ*Ʈ*Ƙ+ƍ+46ɀ*6ȴ+ǔ*ƙ+ƍ+2ƚ,Ǝ,56˩*Ʋ*Ƙ+ƍ+"
  , "35Ǥ+Ʋ+ƚ,Ǝ,45Ƚ+ƴ+ƚ,Ǝ,34ǩ,ƶ,Ǝ#篂$sPpCl0lCkHk1l0nWjkGemKƐ,fƌ'b!kGƱ#ơ'mKƯ#l0Ǝ'Ư%ƌ'fƗ%ƭ$Gf/2nWǇ#f/4kHƎ&mKƎ%!Ǝ%b!Ȓ%ƿ#"
  , "ƺ%Ư$ƽ.!Ǝ&!ȩ'lCamKkGɎOHsɎ~GɎVbkFkGkFl0wHkLvBsPaƬ#Ƒ#ƙ#ĤmKkFƑ%ƚ&Ƒ$Gb!wHkJqAƣ$Ĥƭ$l0ak9kJsDBLOCK-2+5amGƐ-ǝ%Ɣ#sPc/3"
  , "Ƽ#5kGc/3ǡ#5mKƱ,1358amKǨ#sPb!kLv1ĖkQƌ%Bb!k4v1@kGƥ#ƣ9ĭl9mZ.ADEa絺$Ǽ$Ƿ%2yYƏ$l9sPȞ#l9cyYƭ&Ɛ%sPĿB94=/2Ǌ#Ɵ*kG瑽- FILLĦ"
  , "yY@k8mG@mK˰%ʸ$kGƋ$Hb˷%ǝ#ĦkHǋ$ƪ#wHǝ&Ğ˗&bơ#aq0DR蝿%l7修&俋$ikGe偼)fƶ#e/3Ơ*/3Ƣ*Ɩ&Gh/4mKeƦ)kFƖ#Ƣ%Ʋ$Ƒ$Hjƴ*Hiǃ+ǔ(Ǆ(GȂ*Ɨ*"
  , "Heq[mG(k9lKa)ROWHEAD破& PO&T*ayY箜$ˠ#釮&r8aʃ$yY蚇$;IPk2暨%FmK偉)a/8桅&kPˇ#棃$ǉ$衅(kGaVOIDED氈$kGmVp1kOatGpCp5cȼ)cqIakUk8"
  , "氇&獶*ĭwCkUkGqUnAa/5lC傻$ǃ#1qNkRa憥$鿮%%()MSq9cLE$&GkHdkGc(贇%kUu6~EVļĿBF0=SEGM>TEDlSl4ckJck?kLckNckQckYck4ck0ck5a=E"
  , "0001=L$GUAGE TAGƔ$20=TAGvJb鿡$!u8bm7kEb觏'b!P*C>TbyLbxGbkHq8b!kGbrUbk3kEbo4bz5bpRnYbrLbȉ>bqRbu9bnEǤ$pXb!nGbʊ#bzX"
  , ";bnPkD鿒TbkHmDnObrKrLbkGƌ$nNp2bl1nJbnXp2ǜ#CǜWrZnObk9nJbkGƌ$mYaC$CELˋ'1ĢV)Iģ SEL蠝$-17+82bƏ)00+156" ]

end CommandLine.Text
