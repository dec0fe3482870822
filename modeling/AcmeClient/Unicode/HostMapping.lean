import AcmeClient.Unicode.Runs

/-!
# The mapping of host names

The mapping step of internationalized host names: valid characters stay, ignored ones vanish,
others are replaced, and the rest are refused.
-/

namespace AcmeClient.Unicode

/-- Kinds: `V` valid, `X` refused, `I` ignored, `C` replaced by the numbers, `D` shifted so that
the first goes to the number, `A` every second character replaced by its successor. -/
def hostRuns : Runs := .ofText "0V 1tD2p qV 11X wCw 1V 7Cw.lk 1V 1C2p 1V 2I 1V 1Cw.lg 1V 2D1e 2Cw.ld 1Cqk 1V 2Cw.mf 1C1d 1C33 1V
1C1d.6dg.1g 1C1d.6dg.1e 1C1f.6dg.1g 1V 1D68 nV 1D6w 7V xA 1bV 1C2x.lj 1V 1C2x.2y 2A 3V 2A 5V
1C30.53 2A 7V 1Cjg.32 1A 19V 1C73 1A 5V 1C37 1V 1Cgj 1A 3V 1Cgk 1Caw 1V 1Dgm 2Cb0 1V 2Cd9 1Cgp
1Cgr 1Cb6 1V 1Cgw 1Cgz 1V 1Ch5 1Ch4 1Cbd 1V 3Chb 1Che 1V 1Chh 1A 5V 1Chs 1Cbs 1V 1Chv 1V 2Cbx 1V
1Ci0 1Cc0 1V 1Di2 2A 3V 1Cia 1Cc9 1V 3Ccd 1V 7C2s.am 3C30.2y 3C32.2y 3A fV 2A hV 2C2s.3e 3Cdx 1V
1Cb9 1Ccf 1A 13V 1Cbi 1V 1A hV 7C8rp 1Cfw 1V 1Cbe 1C8rq 1V 2Cg2 1V 1Cao 1Ci1 1Ci4 1A 9V 2pC2w 1Ch2
1C2y 1C36 1Chl 1Chn 1Cht 1C3b 1C3d 1V vCw.li 1Cw.lj 1Cw.lm 1Cw.mg 1Cw.lf 1Cw.ln 1V 2Cgz 1C30 1C37
1C3c 1Cid 1V 2jDlc 2V 1Clv 1Clk.ld 1Cqh 1V 9I 1V wA 3V 1Cjd 1V 1Con 1V 1X 2Cw.qh 1V 3C1n 1Cs3 1X
4Cw.ld 1Cw.lk.ld 1Cq4 1C53 1Dq5 3X 1Cr0 1X 1Dr1 2V 1Dq9 hX 1Dqr 9V zCrb 1Cqa 1Cqg 1Cqt 1Cr1 1Cqz
1Cqu 1Cqo 1V 1A nV 1Cqi 1Cqp 1Cqr 1V 1Cqg 1Cqd 1V 1Cs8 1V 1Cqr 1Csb 1V 2Dor 3Duo gDts wV 1cA xV 9A
1hV 1Cy7 1A dV 2A 2nV 1X 1D129 12X 2V 1aC12d.136 1V 3X 2V 3X 1V 1jX 8V rX 4V 6X hV mX 1V
2gC17r.19w 1C18o.19w 1C1c7.19w 1C18q.19w 1V 2sX 1V 1cX 2V 1nX 2V 2tX eV 1nX 2V 1dX 2V fX 1V sX 2V
1X 1V bX 5V wX 7V 23X 1V 39C1sl.1to 1C1sm.1to 1C1sn.1to 1C1ss.1to 1C1sx.1to 1C1sy.1to 1C1t7.1to
1C1tb.1to 1V 10X 1V 8X 2V 2X 2V mX 1V 7X 1V 1X 3V 4X 2V 9X 2V 2X 2V 4X 8V 1X 4C1wh.1x8 1C1wi.1x8
1X 1C1wv.1x8 1V 4X 2V pX 2V 3X 1V 6X 4V 2X 2V mX 1V 7X 1V 1C20i.20s 1X 1V 1C20o.20s 1X 1V 2X 2V 1X
1V 5X 4V 2X 2V 3X 3V 1X 7C1zq.20s 1C1zr.20s 1C1zw.20s 1V 1X 1C20b.20s 1X 7V hX aV 3X 1V 9X 1V 3X
1V mX 1V 7X 1V 2X 1V 5X 2V aX 1V 3X 1V 3X 2V 1X fV 4X 2V cX 7V 7X 1V 3X 1V 8X 2V 2X 2V mX 1V 7X 1V
2X 1V 5X 2V 9X 2V 2X 2V 3X 7V 3X 4C275.27w 1C276.27w 1X 1V 5X 2V iX aV 2X 1V 6X 3V 3X 1V 4X 3V 2X
1V 1X 1V 2X 3V 2X 3V 3X 3V cX 4V 5X 3V 3X 1V 4X 2V 1X 6V 1X eV lX 5V dX 1V 3X 1V nX 1V gX 2V 9X 1V
3X 1V 4X 7V 2X 1V 3X 1V 2X 2V 4X 2V aX 7V mX 1V 3X 1V nX 1V aX 1V 5X 2V 9X 1V 3X 1V 4X 7V 2X 5V 3X
1V 4X 2V aX 1V 3X cV dX 1V 3X 1V 1fX 1V 3X 1V 6X 4V gX 2V qX 1V 3X 1V iX 3V oX 1V 9X 1V 1X 2V 7X
3V 1X 4V 6X 1V 1X 1V 8X 6V aX 2V 3X cV 1eC2tp.2sy 1V 7X 4V tX 11V 2X 1V 1X 1V 5X 1V oX 1V 1X 1V
cC2x9.2wi 1V aX 2V 5X 1V 1X 1V 7X 1V aX 2C2wb.2vt 1C2wb.2w1 1V 2X wV cC2yz 1V 1iC30i.33r 1V 4X 1V
4C30s.33r 1V 4C30x.33r 1V 4C312.33r 1V 4C317.33r 1V cC30g.33p 1V 3X 4V 2C31t.31u 1V 1C31t.31w
1C33m.328 1C33m.31t.328 1C33n.328 1C33n.31t.328 1V 7C31t.328 1V hC32q.33r 1V 4X 1V 4C330.33r 1V
4C335.33r 1V 4C33a.33r 1V 4C33f.33r 1V cC32o.33p 1V 3X 1V fX 1V dX 11V 4gD8w0 12X 1C8x3 1X 5C8x9
1X 2V 18C3bw 1V 2qI 2V 6gX 1V 4X 2V 7X 1V 1X 1V 4X 2V 15X 1V 4X 2V xX 1V 4X 2V 7X 1V 1X 1V 4X 2V
fX 1V 1lX 1V 4X 2V 1vX 2V wX 3V qX 6V 2eX 2D3xs 6X 2V hsX 1V sX 3V 2hX 7V mX 9V oX 9V kX cV dX 1V
3X 1V 2X cV 1gI 2V 14X 2V aX 6V aX 6V bI 5V aX 6V 2hX 7V 17X 5V 1yX aV vX 1V cX 4V cX 4V 1X 3V 16X
2V 5X bV 18X 4V qX 6V bX 3V 1qX 2V 1tX 1V tX 2V bX 6V aX 6V eX 2V 1aX 2V cX kV 25X 1V 4mX 8V 1oX
3V fX 3V 1fCtu 1Ctw 1Cu6 1Du9 2Cua 1Cui 1Cv7 1Cwuj 1C5my 1V 1X 5D3bk 17X 2D3ct 3V 8X 8V 17X 5V
18C2p 1C6e 1C2q 1V 1D2s 2Cd9 1D2v 8V 1C33 1Cf7 1C34 1C36 1D38 2C3b 1C2p 1Dgg 2C5qa 1C2q 1D2s 2Cgp
1Dgr 2C2v 1V 1C2z 1C31 1C97 1C33 1Cgk 1D5qu 2C34 1D38 2C5r1 1Chb 1C3a 1C5r9 1Dqa 3Dqu 2C2x 1C36
1D39 2Dqa 2Cqp 1Dqu 2V dCu5 1V yCgi 1C2r 1Cgl 1C6o 1Cgs 1C2u 1Cgv 1Cgx 1Ch1 1Dh4 3C5tn 1Cil 1Ch9
1C5tx 1Cin 1Chd 1Chc 1Dhe 4Chk 1Dhu 2Cbv 1Di1 2C5r0 1Di3 2C3e 1Di8 3Cqg 1V 1sA 45V 5C2p.ji 1C601
1V 2C67 1V 1A 2nV 9D64g 8V 6X 2D64w 6X 2V 8D65c 8V 8D65s 8V 6X 2D668 6X 2V 8X 1C66p 1X 1C66r 1X
1C66t 1X 1C66v 1V 8D674 8V 1Cq4 1V 1Cq5 1V 1Cq6 1V 1Cq7 1V 1Cr0 1V 1Cr1 1V 1Cr2 1X 2C64g.qh
1C64h.qh 1C64i.qh 1C64j.qh 1C64k.qh 1C64l.qh 1C64m.qh 1C64n.qh 1C64g.qh 1C64h.qh 1C64i.qh 1C64j.qh
1C64k.qh 1C64l.qh 1C64m.qh 1C64n.qh 1C65c.qh 1C65d.qh 1C65e.qh 1C65f.qh 1C65g.qh 1C65h.qh 1C65i.qh
1C65j.qh 1C65c.qh 1C65d.qh 1C65e.qh 1C65f.qh 1C65g.qh 1C65h.qh 1C65i.qh 1C65j.qh 1C674.qh 1C675.qh
1C676.qh 1C677.qh 1C678.qh 1C679.qh 1C67a.qh 1C67b.qh 1C674.qh 1C675.qh 1C676.qh 1C677.qh 1C678.qh
1C679.qh 1C67a.qh 1C67b.qh 1V 2C67k.qh 1Cq9.qh 1Cq4.qh 1X 1V 1C69i.qh 1D69c 2C67k 1Cq4 1Cq9.qh
1Cw.lv 1Cqh 1Cw.lv 1Cw.n6 1Cw.lk.n6 1C67o.qh 1Cqf.qh 1Cq6.qh 1X 1V 1C69y.qh 1C67m 1Cq5 1C67o 1Cq6
1Cqf.qh 1Cw.lv.lc 1Cw.lv.ld 1Cw.lv.n6 1V 3Cpc 1X 2V 2D6a8 2C67q 1Cq7 1X 1Cw.lw.lc 1Cw.lw.ld
1Cw.lw.n6 1V 3Cq8 1V 4D6ao 2C67u 1Cr1 1C6at 1Cw.lk.lc 1Cw.lk.ld 1C2o 1X 2C67w.qh 1Cqx.qh 1Cr2.qh
1X 1V 1C6ba.qh 1C67s 1Cr0 1C67w 1Cr2 1Cqx.qh 1Cw.ld 1Cw.lw 1X 1Cw bI 1V 2X 2V 1C6c0 1V 5Cw.mr 1V
cX 3V 1X 7Cw 1V 3C6cy.6cy 1C6cy.6cy.6cy 1V 1C6d1.6d1 1C6d1.6d1.6d1 1V 4Cx.x 1V 1Cw.lh 1V 8C1r.1r
1C1r.x 1Cx.1r 1V dC6cy.6cy.6cy.6cy 1V 7Cw 1I 5X 5I 6C1c 1C2x 1X 2D1g 6C17 1C6qa 1C1p 1D14 2C32
1D1c aC17 1C6qa 1C1p 1D14 2X 1C2p 1C2t 1C33 1C3c 1Cgp 1C2w 1D2z 4C34 1D37 2X 3V 8C36.37 1V pX eV
xX fC2p.1b.2r 1C2p.1b.37 1C2r 1C4w.2r 1V 1C2r.1b.33 1C2r.1b.39 1Cgr 1V 1C4w.2u 1D2v 2C2w 3C87 1C2x
2C30 2V 1C32 1C32.33 1V 2D34 3C36 2V 2C37.31 1C38.2t.30 1C38.31 1V 1C3e 1V 1Cqx 1V 1C3e 1V 1C2z
1C6d 1D2q 2V 1C2t 2C2u 1C6ku 1C31 1C33 1D15c 4C2x 1V 1C2u.2p.3c 1Cqo 1Cqb 2Cqo 1C6q9 1V 4C2s 2C2t
1D2x 2V 6C1d.6dg.1j 1C1d.6dg.1l 1C1d.6dg.1d.1c 1C1d.6dg.1f 1C1e.6dg.1f 1C1d.6dg.1h 1C1e.6dg.1h
1C1f.6dg.1h 1C1g.6dg.1h 1C1d.6dg.1i 1C1h.6dg.1i 1C1d.6dg.1k 1C1f.6dg.1k 1C1h.6dg.1k 1C1j.6dg.1k
1C1d.6dg 1C2x 1C2x.2x 1C2x.2x.2x 1C2x.3a 1C3a 1C3a.2x 1C3a.2x.2x 1C3a.2x.2x.2x 1C2x.3c 1C3c
1C3c.2x 1C3c.2x.2x 1C30 1D2r 2C31 1C2x 1C2x.2x 1C2x.2x.2x 1C2x.3a 1C3a 1C3a.2x 1C3a.2x.2x
1C3a.2x.2x.2x 1C2x.3c 1C3c 1C3c.2x 1C3c.2x.2x 1C30 1D2r 2C31 1V 3C6mc 1V 5C1c.6dg.1f 1V 2X 4V
4cC6qz.6qz 1C6qz.6qz.6qz 1V 1C6r2.6r2 1C6r2.6r2.6r2 1V 6wD9hk 2V 73X mV bX lD1d 9C1d.1c 1C1d.1d
1C1d.1e 1C1d.1f 1C1d.1g 1C1d.1h 1C1d.1i 1C1d.1j 1C1d.1k 1C1d.1l 1C1e.1c 1C14.1d.15 1C14.1e.15
1C14.1f.15 1C14.1g.15 1C14.1h.15 1C14.1i.15 1C14.1j.15 1C14.1k.15 1C14.1l.15 1C14.1d.1c.15
1C14.1d.1d.15 1C14.1d.1e.15 1C14.1d.1f.15 1C14.1d.1g.15 1C14.1d.1h.15 1C14.1d.1i.15 1C14.1d.1j.15
1C14.1d.1k.15 1C14.1d.1l.15 1C14.1e.1c.15 1X kC14.2p.15 1C14.2q.15 1C14.2r.15 1C14.2s.15
1C14.2t.15 1C14.2u.15 1C14.2v.15 1C14.2w.15 1C14.2x.15 1C14.2y.15 1C14.2z.15 1C14.30.15 1C14.31.15
1C14.32.15 1C14.33.15 1C14.34.15 1C14.35.15 1C14.36.15 1C14.37.15 1C14.38.15 1C14.39.15 1C14.3a.15
1C14.3b.15 1C14.3c.15 1C14.3d.15 1C14.3e.15 1D2p qD2p qC1c 1V 10hC6qz.6qz.6qz.6qz 1V 2vC1m.1m.1p
1C1p.1p 1C1p.1p.1p 1V 2tC8gt.mw 1V 47X 2V 3uD8q8 1cV 1cC8rl 1V 1Ch7 1C5tp 1Chp 1V 2A 5V 1Cgh 1Chd
1Cgg 1Cgi 1V 1C8s3 1V 2C8s6 1V 6C2y 1C3a 1Dfz 2A 2rV 8A 3V 4C8vn 1V 1X 5V 19X 1V 1X 5V 1X 2V 1kX
7C8yp 1V 1X eV oX 9V 7X 1V 7X 1V 7X 1V 7X 1V 7X 1V 7X 1V 7X 1V 7X 1V 3iX yV qX 1V 4Clal 1V 2bCvj3
1X cCfeo 1Cffs 1Cfg6 1Cfgf 1Cfh5 1Cfid 1Cfik 1Cfj4 1Cfju 1Cg1r 1Cg2t 1Cg2z 1Cg3m 1Cg46 1Cg4r 1Cg68
1Cg6t 1Cg74 1Cgbf 1Cge1 1Cget 1Cgey 1Cgfs 1Cgg1 1Cggs 1Cgh5 1Cghu 1Cgja 1Cgjs 1Cgkj 1Ch5j 1Ch7j
1Chkb 1Chky 1Chl6 1Chlh 1Chlz 1Cho3 1Ci1c 1Ci2o 1Ci60 1Ci6n 1Ci76 1Ci7s 1Ci9a 1Ci9d 1Cijf 1Cijp
1Cik1 1Cike 1Cinm 1Cinu 1Cinz 1Cir8 1Ciri 1Cirv 1Cis3 1Cits 1Ciu9 1Ciur 1Ciwz 1Cjd4 1Cjee 1Cjez
1Cjzj 1Cjzo 1Ck1z 1Ck2f 1Ck2s 1Ck3d 1Ck4g 1Ck4l 1Ckc0 1Ckco 1Ckdk 1Cl5s 1Cl7m 1Cl89 1Cl9v 1Claj
1Clas 1Claz 1Clcf 1Clck 1Cldg 1Cm7f 1Cmju 1Cmk6 1Cmkb 1Cmkf 1Cmkn 1Cml5 1Cml7 1Cmng 1Cmtg 1Cmtl
1Cn30 1Cn3a 1Cn4o 1Cn4v 1Cn54 1Cn5c 1Cn7v 1Cn82 1Cnee 1Cnel 1Cnfy 1Cngf 1Cnhq 1Cnob 1Cnoi 1Cnoz
1Cny2 1Co1k 1Co1q 1Co6s 1Co97 1Coah 1Cokz 1Cooo 1Cp4m 1Cp5d 1Cp6y 1Cp8d 1Cpa9 1Cpak 1Cpaq 1Cpbn
1Cpdr 1Cpe1 1Cpnn 1Cpnu 1Cpo3 1Cpoc 1Cpos 1Cpp7 1Cppb 1Cpri 1Cprm 1Cprs 1Cqj1 1Cqjv 1Cqww 1Cqx8
1Cqxv 1Cr5q 1Cr63 1Cr82 1Cr9c 1Crp3 1Crpi 1Crpx 1Crqw 1Crrx 1Crxg 1Crxs 1Crzn 1Cs6j 1Cs7e 1Csd7
1Csds 1Csdx 1Csk1 1Csp5 1Cssm 1Csss 1Cssx 1Ctiv 1Ctj4 1Ctng 1Ctrq 1Ctrt 1Ctt4 1Ctw1 1Ctwe 1Ctwi
1Ctwp 1Ctzf 1Cu0d 1Cu0j 1Cu0x 1Cu5k 1Cu6z 1Cu73 1Cuc6 1Cuc9 1Cucs 1Cujs 1Cul4 1Culb 1Cun9 1Cunj
1Cunm 1Cunw 1Cuoq 1Cuzp 1Cvat 1Cvb3 1Cvc5 1Cvcr 1Cvcz 1Cvd9 1Cvdd 1Cveh 1Cvel 1Cvf2 1Cvf7 1Cvfk
1Cvgb 1Cvgq 1Cvgy 1Cvil 1Cvj0 1Cvj4 1X 16Cw 1V 1C1a 1V 1fC9hu 1V 1Cgg1 1Dgg4 2V 5X 1V 2eX 2V
2Cw.9ll 1Cw.9lm 1V 2C9l4.9l6 1V 2nC9mb.9mw 1X 5V 17X 1D3cw 2C3hm 1C3cy 1D3ho 2D3cz 3D3hs 6C3dm
1D3d2 3C3dt 1D3d5 aD3fl lI 1D3dg 2D3if 2C3ik 1C3im 1C3ir 1C3iv 1C3ix 1C3do 1C3j1 1C3j3 1D3dp 2C3ds
1D3du 2C3dz 1C3e1 1D3e3 5C3ea 1C3ee 1C3eo 1C3ev 1C3f0 1D3jl 2D3fb 3D3gk 2C3go 1D3gx 2C3h0 1C3ha
1C3hd 1X 1V 2Cfeo 1Cfik 1Cfex 1Ch5n 1Cfey 1Cffx 1Cfez 1Cn5e 1Cfh5 1Cffd 1Cfep 1Chm1 1Ch80 1Cfju 1V
1yX aV gC14.3cw.15 1C14.3cy.15 1C14.3cz.15 1C14.3d1.15 1C14.3d2.15 1C14.3d3.15 1C14.3d5.15
1C14.3d7.15 1C14.3d8.15 1C14.3da.15 1C14.3db.15 1C14.3dc.15 1C14.3dd.15 1C14.3de.15 1C14.xz4.15
1C14.yvs.15 1C14.zc4.15 1C14.108s.15 1C14.10p4.15 1C14.115g.15 1C14.1224.15 1C14.12ys.15
1C14.13f4.15 1C14.14bs.15 1C14.14s4.15 1C14.158g.15 1C14.15os.15 1C14.1654.15 1C14.13p8.15
1C14.1350.13ic.15 1C14.1350.16f8.15 1X 1C14.feo.15 1C14.fik.15 1C14.fex.15 1C14.h5n.15 1C14.fis.15
1C14.g31.15 1C14.fer.15 1C14.g2z.15 1C14.fh9.15 1C14.gg1.15 1C14.kco.15 1C14.m7f.15 1C14.ldg.15
1C14.kdk.15 1C14.ssx.15 1C14.h7j.15 1C14.k4l.15 1C14.kkq.15 1C14.kcp.15 1C14.ny6.15 1C14.glp.15
1C14.mm1.15 1C14.rs1.15 1C14.nz1.15 1C14.gc4.15 1C14.fkz.15 1C14.gos.15 1C14.i1y.15 1C14.nhf.15
1C14.flt.15 1C14.rt3.15 1C14.ggk.15 1C14.nzh.15 1C14.fm9.15 1C14.pnu.15 1C14.po3.15 1Cgun 1Cinw
1Ck1z 1Coen 1V 8C34.38.2t 1C1e.1d 1C1e.1e 1C1e.1f 1C1e.1g 1C1e.1h 1C1e.1i 1C1e.1j 1C1e.1k 1C1e.1l
1C1f.1c 1C1f.1d 1C1f.1e 1C1f.1f 1C1f.1g 1C1f.1h 1C3cw 1D3cy 2D3d1 3C3d5 1D3d7 2D3da 5Cxz4 1Cyvs
1Czc4 1C108s 1C10p4 1C115g 1C1224 1C12ys 1C13f4 1C14bs 1C14s4 1C158g 1C15os 1C1654 1C14c8.y5c
1C13p8.13dk 1C138w 1V 1Cfeo 1Cfik 1Cfex 1Ch5n 1Cfis 1Cg31 1Cfer 1Cg2z 1Cfh9 1Cgg1 1Ckco 1Cm7f
1Cldg 1Ckdk 1Cssx 1Ch7j 1Ck4l 1Ckkq 1Ckcp 1Cny6 1Cglp 1Cmm1 1Crs1 1Cnz1 1Cgc4 1Co2g 1Cn5j 1Cho3
1Csix 1Cg16 1Cghc 1Clig 1Cu11 1Cfm9 1Cg49 1Cl7n 1Cfey 1Cffx 1Cfez 1Cijq 1Cgkz 1Cgfv 1Ci3b 1Ci1y
1Cnhf 1Cflt 1Crt3 1Cggk 1Chlo 1C1f.1i 1C1f.1j 1C1f.1k 1C1f.1l 1C1g.1c 1C1g.1d 1C1g.1e 1C1g.1f
1C1g.1g 1C1g.1h 1C1g.1i 1C1g.1j 1C1g.1k 1C1g.1l 1C1h.1c 1C1d.kco 1C1e.kco 1C1f.kco 1C1g.kco
1C1h.kco 1C1i.kco 1C1j.kco 1C1k.kco 1C1l.kco 1C1d.1c.kco 1C1d.1d.kco 1C1d.1e.kco 1C2w.2v
1C2t.36.2v 1C2t.3a 1C30.38.2s 1C9lu 1C9lw 1C9ly 1C9m0 1D9m2 2C9m5 1C9m7 1C9m9 1C9mb 1C9md 1C9mf
1C9mh 1C9mj 1C9ml 1C9mn 1C9mp 1C9ms 1C9mu 1C9mw 1D9my 6C9n6 1C9n9 1C9nc 1C9nf 1D9ni 5C9no 1C9nq
1D9ns 6D9nz 4Cfl0.gp8 1C9lu.9n5.9oc.9mw 1C9lu.9nv.9n9.9lt 1C9lu.9o3.9ne.9lu 1C9lu.9oc.9nv
1C9lw.9mz.9o3.9m8 1C9lw.9o3.9mp 1C9ly.9m1.9o3 1C9m0.9mh.9m7.9oc.9mx 1C9m0.9oc.9m3.9oc
1C9m2.9o3.9mh 1C9m2.9oc.9nk 1C9m3.9lw.9nu 1C9m3.9nt.9mr.9mw 1C9m3.9nx.9nu.9oc 1C9m4.9nx.9o3
1C9m4.9o3.9ni 1C9m6.9m4 1C9m6.9mz.9oc 1C9m5.9np.9nu.9oc 1C9m6.9nv.9mo.9oc 1C9m5.9nx
1C9m5.9nx.9m8.9nt.9nk 1C9m5.9nx.9nl.9oc.9mw.9nv 1C9m5.9nx.9nz.9mr.9mw 1C9m8.9nt.9nk
1C9m8.9nt.9nk.9mw.9o3 1C9m7.9nv.9mk.9lw.9nx 1C9m7.9nx.9oc.9n1 1C9m9.9oc.9mh 1C9mb.9nv.9my
1C9mb.9oc.9nh 1C9md.9lw.9m7.9nv 1C9md.9o3.9mp.9oc.9nk 1C9mf.9nu.9o3.9m8 1C9mj.9o3.9mp
1C9mj.9o3.9mw 1C9mo.9oc.9mh 1C9mv.9mf 1C9mx.9nv 1C9mw.9o3 1C9my.9n2 1C9n2.9mr.9mw 1C9n3.9lw.9ms
1C9n5.9oc.9mj.9o3.9mw 1C9n5.9oc.9ms 1C9n4.9oc.9nw.9nv 1C9n8.9lu.9mh.9mw.9nv 1C9n8.9m7.9nv
1C9n8.9mb 1C9n7.9nv 1C9n9.9lt.9nt.9mr.9mx 1C9n9.9lv.9oc.9mw 1C9na.9mr.9mf.9lz.9nv 1C9n9.9nt.9o3
1C9nc.9m7.9mn.9oc.9nv 1C9ne.9ml 1C9ne.9mz.9n6 1C9nc.9nv.9ms 1C9ne.9o3.9mh 1C9ne.9oc.9mg
1C9nd.9oc.9mn 1C9nh.9lw.9o3.9mw 1C9ng.9nv.9mw 1C9nf.9o3 1C9nh.9o3.9mx 1C9nf.9oc.9nv 1C9nf.9oc.9o3
1C9ni.9lw.9m7.9nx 1C9ni.9lw.9nv 1C9ni.9mr.9n3 1C9ni.9nv.9m7 1C9ni.9o3.9mf.9nr.9o3
1C9nj.9m7.9nx.9o3 1C9nj.9nu 1C9nj.9nu.9n4.9oc.9nv 1C9nl.9m4 1C9nl.9m4.9mw.9o3 1C9nl.9oc.9mw.9nv
1C9no.9oc.9mx 1C9no.9oc.9nv 1C9nq.9lu.9o3 1C9nu.9mr.9mw.9nv 1C9nu.9nt 1C9nv.9n8.9oc
1C9nv.9oc.9na.9nv 1C9nw.9nk 1C9nw.9o3.9mw.9ma.9o3 1C9nz.9mr.9mw 1C1c.m9l 1C1d.m9l 1C1e.m9l
1C1f.m9l 1C1g.m9l 1C1h.m9l 1C1i.m9l 1C1j.m9l 1C1k.m9l 1C1l.m9l 1C1d.1c.m9l 1C1d.1d.m9l 1C1d.1e.m9l
1C1d.1f.m9l 1C1d.1g.m9l 1C1d.1h.m9l 1C1d.1i.m9l 1C1d.1j.m9l 1C1d.1k.m9l 1C1d.1l.m9l 1C1e.1c.m9l
1C1e.1d.m9l 1C1e.1e.m9l 1C1e.1f.m9l 1C1e.1g.m9l 1C2w.34.2p 1C2s.2p 1C2p.39 1C2q.2p.36 1C33.3a
1C34.2r 1C2s.31 1C2s.31.1e 1C2s.31.1f 1C2x.39 1Cinn.jdc 1Ck6l.gp8 1Chlz.l7n 1Ck5q.lh7
1Ckkq.irz.fmi.ny6 1C34.2p 1C32.2p 1Cqk.2p 1C31.2p 1C2z.2p 1C2z.2q 1C31.2q 1C2v.2q 1C2r.2p.30
1C2z.2r.2p.30 1C34.2u 1C32.2u 1Cqk.2u 1Cqk.2v 1C31.2v 1C2z.2v 1C2w.3e 1C2z.2w.3e 1C31.2w.3e
1C2v.2w.3e 1C38.2w.3e 1Cqk.30 1C31.30 1C2s.30 1C2z.30 1C2u.31 1C32.31 1Cqk.31 1C31.31 1C2r.31
1C2z.31 1C31.31.1e 1C2r.31.1e 1C31.1e 1C2z.31.1e 1C31.31.1f 1C2r.31.1f 1C31.1f 1C2z.31.1f
1C31.6qd.37 1C31.6qd.37.1e 1C34.2p 1C2z.34.2p 1C31.34.2p 1C2v.34.2p 1C36.2p.2s 1C36.2p.2s.6qd.37
1C36.2p.2s.6qd.37.1e 1C34.37 1C32.37 1Cqk.37 1C31.37 1C34.3a 1C32.3a 1Cqk.3a 1C31.3a 1C2z.3a
1C31.3a 1C34.3b 1C32.3b 1Cqk.3b 1C31.3b 1C2z.3b 1C31.3b 1C2z.qx 1C31.qx 1X 1C2q.35 1C2r.2r 1C2r.2s
1C2r.6qd.2z.2v 1X 1C2s.2q 1C2v.3d 1C2w.2p 1C2w.34 1C2x.32 1C2z.2z 1C2z.31 1C2z.38 1C30.31 1C30.32
1C30.33.2v 1C30.3c 1C31.2q 1C31.2x.30 1C31.33.30 1C34.2w 1X 1C34.34.31 1C34.36 1C37.36 1C37.3a
1C3b.2q 1C3a.6qd.31 1C2p.6qd.31 1C1d.k4l 1C1e.k4l 1C1f.k4l 1C1g.k4l 1C1h.k4l 1C1i.k4l 1C1j.k4l
1C1k.k4l 1C1l.k4l 1C1d.1c.k4l 1C1d.1d.k4l 1C1d.1e.k4l 1C1d.1f.k4l 1C1d.1g.k4l 1C1d.1h.k4l
1C1d.1i.k4l 1C1d.1j.k4l 1C1d.1k.k4l 1C1d.1l.k4l 1C1e.1c.k4l 1C1e.1d.k4l 1C1e.1e.k4l 1C1e.1f.k4l
1C1e.1g.k4l 1C1e.1h.k4l 1C1e.1i.k4l 1C1e.1j.k4l 1C1e.1k.k4l 1C1e.1l.k4l 1C1f.1c.k4l 1C1f.1d.k4l
1C2v.2p.30 1V m8dX 3V 1jX 9V 9oX kA 19V jA rV 1Cui 1Cuk 1V 2iX 8V yA dV 3A 1pV 1Cx2n 1V 8A 3V
1C5tl 1A 9V 4Cx3g 1V 1Ch1 1V 2A 3V 3A jV 1Ch2 1Cgs 1Cgx 1Ch8 1Ch6 1V 1Cim 1Chz 1Cil 1Cxub 1A fV
1Cx3o 1Chu 1C5u6 1A 3V 1Ch0 1A fV 1Cbf 1X kC37 1C2r 1C2u 1C35 1Cx6e 1V 2C87 1C9f 1V 1fX 3V aX 6V
1kX 8V 1yX 8V cX 6V 38X bV uX 3V 26X 1V bX 4V xX 1V 1jX 9V eX 2V aX 2V 2vX oV sX aV 6X 2V 6X 2V 6X
9V 7X 1V 7X 1V 18Cx0n 1Cxtj 1Ch7 1Cxua 1V 9Ci5 1V 2X 4D3vk 28V 1aX 2V aX 6V 8mcX cV nX 4V 1dX
6isCrpk 1Ckc4 1Cs7e 1Crt4 1Clw1 1Cfg2 1Cgkl 1Cvj0 2Chn5 1Cssx 1Cgw7 1Chmw 1Cjcm 1Cne1 1Cp6t 1Cqin
1Cqt6 1Cr20 1Csjz 1Ckxu 1Cljv 1Cmah 1Cmvy 1Cq4d 1Csq2 1Cuep 1Cfia 1Cghh 1Cl50 1Cmjf 1Cqi5 1Cv8e
1Cifk 1Cm3v 1Cqfh 1Cr50 1Cjih 1Cpnc 1Cqvz 1Ciq2 1Ckd3 1Clm2 1Cmpo 1Cslq 1Cfpi 1Cg53 1Cgda 1Cjwk
1Cl3n 1Cmj4 1Cnhj 1Cpa9 1Cqh2 1Cqjg 1Cs1b 1Ctv6 1Cupb 1Cv7e 1Cnt8 1Cnzz 1Cotc 1Cq15 1Ct1g 1Cvb3
1Crfa 1Chjz 1Ciro 1Cokg 1Cpdq 1Cmle 1Cnuy 1Crsy 1Cttj 1Chjs 1Ci8y 1Ckyb 1Clp6 1Clxr 1Coq7 1Coxj
1Ctor 1Cgcy 1Cpe3 1Cg64 1Cg5o 1Co4c 1Cou6 1Cq29 1Ctpx 1Crk0 1Cjin 1Ckxu 1Crge 1Cfg9 1Ci5j 1Ciz6
1Cmtj 1Cn74 1Cgev 1Cnwb 1Cfr3 1Ciw9 1Cff1 1Clho 1Ck1k 1Copu 1Cgjn 1Chge 1Cni9 1Cq4p 1Cre2 1Cla2
1Csds 1Clfs 1Cjjy 1Cput 1Cjog 1Cn6t 1Cfji 1Cg2x 1Cg5l 1Ckn5 1Coo7 1Cprj 1Crf6 1Cssv 1Cgdx 1Cgn6
1Cho3 1Cir0 1Ck3p 1Cm4e 1Cnxm 1Ctkd 1Cui2 1Cvbr 1Cvda 1Cgbf 1Ckau 1Cl87 1Csbm 1Cino 1Cj9s 1Cjcw
1Cjve 1Clyb 1Cmdl 1Cn0p 1Co22 1Covo 1Cpdb 1Cs9y 1Cq9a 1Csgz 1Ct3e 1Cg7r 1Cgbn 1Cgql 1Cma0 1Cr0i
1Cre2 1Ciq1 1Ciyd 1Cjnf 1Cl9q 1Coji 1Cmt1 1Cfl0 1Ch6h 1Ci5j 1Ciii 1Cizg 1Cmuq 1Cmzt 1Cp7e 1Cpc6
1Csvo 1Ctti 1Ctvs 1Cu1k 1Cfpn 1Co1a 1Css4 1Ctrs 1Cj4x 1Cfie 1Cfyy 1Ci5q 1Ci7z 1Ck2h 1Ckxu 1Cmha
1Cncy 1Cq9o 1Csjg 1Cvil 1Ck94 1Ctny 1Cgax 1Ckfv 1Ckj7 1Clkx 1Cluk 1Cmx5 1Cn6h 1Cnsb 1Copc 1Cu3i
1Cg31 1Cje6 1Ctq0 1Cfu3 1Cie1 1Clpm 1Csa2 1Civf 1Cj7o 1Ckk7 1Cmtj 1Ctqe 1Cg89 1Cglr 1Ci91 1Ck5v
1Ckem 1Cko8 1Clid 1Cmx2 1Cnaa 1Cp6h 1Cr0v 1Cr1d 1Csss 1Ctsy 1Cgfz 1Clve 1Cgm5 1Cmhc 1Cn14 1Cqgq
1Ctr7 1Cuvr 1Cvbz 1Ckgn 1Clor 1Cpns 1Co97 1Cobk 1Colu 1Cmo0 1Cm8p 1Criw 1Cfk0 1Cpx2 1Cg8q 1Cg7b
1Cip2 1Cjir 1Conq 1Ci2t 1Cljy 1Ckac 1Csaj 1Cqx8 1Ctot 1Cr63 1Ciqb 1Cg1s 1Cgxs 1V 2Chga 1V 1Ck8k 1V
2Cg66 1Cmqy 1Cngq 1Cny4 1Cnz2 1Cnz9 1Co0f 1Ctw6 1Con2 1Cp8d 1V 1Cqhe 1V 1Crg8 1V 2Cshk 1Csn1 1V
3Cu7j 1Cu7w 1Cu94 1Cv5g 1Csm6 1Ctrr 1Cfqm 1Cfzb 1Cg25 1Cgcp 1Cgdg 1Cggh 1Cgwt 1Cgzq 1Ch2g 1Chfk
1Chig 1Ci90 1Ci9a 1Cj2s 1Cj8o 1Cj9q 1Cjci 1Ck0f 1Ck4i 1Ck9d 1Ckn9 1Clmf 1Clqy 1Clya 1Cmem 1Cmjv
1Cmxu 1Cntd 1Cny6 1Cnyh 1Cnyg 1Cnyo 1Cnyu 1Cnz1 1Do0d 2Co5c 1Co75 1Cog0 1Covo 1Cow9 1Coxt 1Cp6a
1Cpad 1Cpnx 1Cprt 2Cq53 1Cr2o 1Cr6e 1Crgh 1Cri1 1Crtf 1Cruw 1Csdy 1Cshk 1Ctsz 1Cu0v 1Cu2j 1Cj1x
1C36cu 1Cpp4 1X 2Cffq 1Cg51 1Cg2w 1Cfpc 1Cg1x 1Cg3k 1Cgcn 1Cge2 1Cgwt 1Cgut 1Cgwp 1Cgyq 1Chga
1Chir 1Chms 1Chn8 1Chuq 1Ci08 1Ciqa 1Ciqh 1Ciuh 1Ciwd 1Cj4o 1Cj7y 1Cj60 1Cj9q 1Cj8g 1Cjci 1Cjec
1Cjpg 1Cjrw 1Cjte 1Ck0m 1Ck8k 1Ckd3 1Ckd7 1Ckeu 1Cl89 1Cla2 1Clkx 1Clwb 1Clvv 1Clya 1Cm5a 1Cmem
1Cnmv 1Cmk5 1Cmnj 1Cmqy 1Cn01 1Cn46 1Cn5n 1Cnbx 1Cnbz 1Cngq 1Cnh7 1Cnhw 1Cnka 1Cnk0 1Cnv0 1Co8h
1Cog0 1Col7 1Corf 1Covo 1Cp4u 1Cpad 1Cpxu 1Cq27 1Cqrd 1Cr41 1Cr5y 1Cr6e 1Cren 1Crg8 1Crez 1Crgh
1Crge 1Crfx 1Cri1 1Crka 1Cruw 1Csag 1Csj6 1Csrd 1Csxi 1Ctq4 1Ctsz 1Ctw6 1Ctzv 1Cu0v 1Cu17 1Cu2j
1Cumq 1Cvj0 1C313e 1C3138 1C33dh 1Cbrx 1Ccns 1Ccop 1C39e1 1C3bgw 1C3i6r 1Cvgj 1Cvim 1X 12C2u.2u
1C2u.2x 1C2u.30 1C2u.2u.2x 1C2u.2u.30 1C37.38 2X cC12s.12u 1C12s.12d 1C12s.12j 1C132.12u 1C12s.12l
1X 5C15l.14k 1V 1C16a.14n 1C15u 1C15c 1D15f 2D15n 3C160 1C162 1C17 1C161.14x 1C161.14y
1C161.14s.14x 1C161.14s.14y 1C15c.14n 1C15c.14o 1C15c.14s 1C15d.14s 1C15e.14s 1C15f.14s 1C15g.14s
1C15h.14s 1C15i.14s 1X 1C15k.14s 1C15l.14s 1C15m.14s 1C15n.14s 1C15o.14s 1X 1C15q.14s 1X 1C15s.14s
1C15t.14s 1X 1C15v.14s 1C15w.14s 1X 1C15y.14s 1C15z.14s 1C160.14s 1C161.14s 1C162.14s 1C15h.14p
1C15d.14v 1C15n.14v 1C15w.14v 1C15c.15o 1C19t 2C1a3 4C1a6 4C1a8 4C1a2 4C1a7 4C1a1 4C1b8 4C1ba
4C1ac 4C1ab 4C1ae 4C1af 4C1al 2C1ak 2C1am 2C1ag 2C1aw 2C1ap 2C1bd 4C1bj 4C1bn 4C1bl 4C1bu 2C1bv
4C1c0 2C1c1 4C1by 4C1ci 2C1cj 2V xC1bh 4C1c7 2C1c6 2C1c8 2C1c7.19w 1C1cb 2C1c5 2C1c9 2C1cg 4C18p
2C17q.17r 2C17q.1cl 2C17q.18o 2C17q.1c7 2C17q.1c6 2C17q.1c8 2C17q.1cg 3C17q.18p 3C1cc 4C17q.17w
1C17q.17x 1C17q.18l 1C17q.18p 1C17q.18q 1C17s.17w 1C17s.17x 1C17s.17y 1C17s.18l 1C17s.18p
1C17s.18q 1C17u.17w 1C17u.17x 1C17u.17y 1C17u.18l 1C17u.18p 1C17u.18q 1C17v.17w 1C17v.18l
1C17v.18p 1C17v.18q 1C17w.17x 1C17w.18l 1C17x.17w 1C17x.18l 1C17y.17w 1C17y.17x 1C17y.18l
1C183.17w 1C183.17x 1C183.17y 1C183.18l 1C185.17x 1C185.18l 1C186.17w 1C186.17x 1C186.17y
1C186.18l 1C187.17x 1C187.18l 1C188.18l 1C189.17w 1C189.18l 1C18a.17w 1C18a.18l 1C18h.17w
1C18h.17x 1C18h.17y 1C18h.18l 1C18h.18p 1C18h.18q 1C18i.17x 1C18i.18l 1C18i.18p 1C18i.18q
1C18j.17r 1C18j.17w 1C18j.17x 1C18j.17y 1C18j.18k 1C18j.18l 1C18j.18p 1C18j.18q 1C18k.17w
1C18k.17x 1C18k.17y 1C18k.18l 1C18k.18p 1C18k.18q 1C18l.17w 1C18l.17x 1C18l.17y 1C18l.18l
1C18l.18p 1C18l.18q 1C18m.17w 1C18m.17x 1C18m.17y 1C18m.18l 1C18m.18p 1C18m.18q 1C18n.17w
1C18n.18l 1C18n.18p 1C18n.18q 1C18q.17w 1C18q.17x 1C18q.17y 1C18q.18l 1C18q.18p 1C18q.18q
1C180.19s 1C181.19s 1C18p.19s 1Cw.18s.18x 1Cw.18t.18x 1Cw.18u.18x 1Cw.18v.18x 1Cw.18w.18x
1Cw.18x.19s 1C17q.181 1C17q.182 1C17q.18l 1C17q.18m 1C17q.18p 1C17q.18q 1C17s.181 1C17s.182
1C17s.18l 1C17s.18m 1C17s.18p 1C17s.18q 1C17u.181 1C17u.182 1C17u.18l 1C17u.18m 1C17u.18p
1C17u.18q 1C17v.181 1C17v.182 1C17v.18l 1C17v.18m 1C17v.18p 1C17v.18q 1C18h.18p 1C18h.18q
1C18i.18p 1C18i.18q 1C18j.17r 1C18j.18k 1C18j.18l 1C18j.18p 1C18j.18q 1C18k.18l 1C18k.18p
1C18k.18q 1C18l.17r 1C18l.18l 1C18m.181 1C18m.182 1C18m.18l 1C18m.18m 1C18m.18p 1C18m.18q
1C18p.19s 1C18q.181 1C18q.182 1C18q.18l 1C18q.18m 1C18q.18p 1C18q.18q 1C17q.17w 1C17q.17x
1C17q.17y 1C17q.18l 1C17q.18n 1C17s.17w 1C17s.17x 1C17s.17y 1C17s.18l 1C17s.18n 1C17u.17w
1C17u.17x 1C17u.17y 1C17u.18l 1C17u.18n 1C17v.18l 1C17w.17x 1C17w.18l 1C17x.17w 1C17x.18l
1C17y.17w 1C17y.18l 1C183.17w 1C183.17x 1C183.17y 1C183.18l 1C185.17x 1C185.17y 1C185.18l
1C186.17w 1C186.17x 1C186.17y 1C186.18l 1C187.17x 1C188.18l 1C189.17w 1C189.18l 1C18a.17w
1C18a.18l 1C18h.17w 1C18h.17x 1C18h.17y 1C18h.18l 1C18i.17x 1C18i.18l 1C18j.17w 1C18j.17x
1C18j.17y 1C18j.18k 1C18j.18l 1C18k.17w 1C18k.17x 1C18k.17y 1C18k.18l 1C18k.18n 1C18l.17w
1C18l.17x 1C18l.17y 1C18l.18l 1C18m.17w 1C18m.17x 1C18m.17y 1C18m.18l 1C18m.18n 1C18n.17w
1C18n.18l 1C18n.19s 1C18q.17w 1C18q.17x 1C18q.17y 1C18q.18l 1C18q.18n 1C17q.18l 1C17q.18n
1C17s.18l 1C17s.18n 1C17u.18l 1C17u.18n 1C17v.18l 1C17v.18n 1C183.18l 1C183.18n 1C184.18l
1C184.18n 1C18j.18k 1C18j.18l 1C18k.18l 1C18m.18l 1C18m.18n 1C18q.18l 1C18q.18n 1C18g.18u.18x
1C18g.18v.18x 1C18g.18w.18x 1C187.18p 1C187.18q 1C189.18p 1C189.18q 1C18a.18p 1C18a.18q 1C183.18p
1C183.18q 1C184.18p 1C184.18q 1C17x.18p 1C17x.18q 1C17w.18p 1C17w.18q 1C17y.18p 1C17y.18q
1C185.18p 1C185.18q 1C186.18p 1C186.18q 1C184.17w 1C184.17x 1C184.17y 1C184.18l 1C184.181
1C183.181 1C185.181 1C186.181 1C187.18p 1C187.18q 1C189.18p 1C189.18q 1C18a.18p 1C18a.18q
1C183.18p 1C183.18q 1C184.18p 1C184.18q 1C17x.18p 1C17x.18q 1C17w.18p 1C17w.18q 1C17y.18p
1C17y.18q 1C185.18p 1C185.18q 1C186.18p 1C186.18q 1C184.17w 1C184.17x 1C184.17y 1C184.18l
1C184.181 1C183.181 1C185.181 1C186.181 1C184.17w 1C184.17x 1C184.17y 1C184.18l 1C183.18n
1C184.18n 1C187.18l 1C183.17w 1C183.17x 1C183.17y 1C184.17w 1C184.17x 1C184.17y 1C187.18l
1C188.18l 1C17r.18r 2V iC17u.17w.18l 1C17u.17x.17w 2C17u.17x.18l 1C17u.17y.18l 1C17u.18l.17w
1C17u.18l.17x 1C17u.18l.17y 1C17w.18l.17x 2C17x.18l.18q 1C17x.18l.18p 1C183.17x.17w 1C183.17w.17x
1C183.17w.18p 1C183.18l.17x 2C183.18l.17w 1C183.18l.18l 2C185.17x.17x 2C185.18l.18l 1C184.17x.18l
2C184.17w.18q 1C184.18l.17y 2C184.18l.18l 2C186.17x.18p 1C186.17y.18l 2C187.18l.17x 2C187.18l.18l
1C187.18l.18q 1C189.17w.18l 1C189.18l.18l 2C189.18l.18p 1C18a.18l.18l 1C18a.18l.18q 1C18a.18l.18p
1C18h.17y.18l 2C18i.18l.17x 1C18i.18l.18l 1C18k.17x.18l 1C18k.17x.18q 1C18k.17x.18p 1C18k.17w.17w
2C18k.17y.18l 2C18k.18l.17x 2C18l.17x.17w 1C18l.17x.18l 1C18l.17x.18q 1C18l.17w.17x 1C18l.17w.18l
1C18l.17y.17w 1C18l.17y.18l 1V 2C18l.17w.17y 1C18n.18l.17w 1C18n.18l.18l 1C18m.17x.18l
1C18m.17x.18p 1C18m.17w.18l 2C18m.17w.18p 1C18m.18l.18q 1C18m.18l.18p 1C18q.18l.18l 2C17s.17y.18q
1C17u.17w.18q 1C17u.17w.18p 1C17u.17y.18q 1C17u.17y.18p 1C17u.18l.18q 1C17u.18l.18p 1C17w.18l.18q
1C17w.17x.18p 1C17w.18l.18p 1C183.17y.18p 1C185.17x.18q 1C184.17x.18q 1C186.17x.18q 1C18k.17w.18q
1C18k.18l.18q 1C18q.17x.18q 1C18q.17w.18q 1C18q.18l.18q 1C18l.18l.18q 1C18i.18l.18q 1C18m.17x.18q
1C18i.18l.17x 1C18k.17x.18l 1C189.18l.18q 1C18j.18l.18q 1C18m.17w.17x 1C18l.17y.18q 1C18k.17w.18l
1C18j.18l.18l 1C18k.17w.18l 1C18m.17w.17x 1C17w.17x.18q 1C17x.17w.18q 1C18l.17w.18q 1C18h.18l.18q
1C17s.17x.18q 1C18j.18l.18l 1C189.17w.18l 1C185.18l.18l 1C183.17y.18q 1C18m.17w.18q 1V 8X
wC185.18k.1ci 1C18i.18k.1ci 1C17r.18k.18k.18n 1C17r.18j.17s.181 1C18l.17x.18l.17z
1C185.18k.189.18l 1C181.183.18o.18k 1C189.18k.18q.18n 1C18o.183.18k.18l 1C185.18k.18p
1C185.18k.18p.w.17r.18k.18k.18n.w.189.18k.18q.18n.w.18o.183.18k.18l
1C17w.18k.w.17w.18k.17r.18k.18n 1C181.1cc.17r.18k 1V 3I gC18 1C9hd 1X 1D1m 2Cx 1C1r 1D9hy 2X 7V gX
1C6c4 1C6c3 1C2n 2D14 2C3f 1C3h 1D9hw 2D9hs 2D9hm 2D9hk 2D9ho 4V 2C2j 1C2l 1Cw.lh 4C2n 3C18 1C9hd
1X 2C1n 1C1m 1C1r 1Cx 1C6c4 1D14 2C3f 1C3h 1D9hw 2Cz 1C12 1D16 2C19 1C1o 1C1q 1C1p 1X 1C2k 1D10
2C1s 1X 4Cw.18r 1C18g.18r 1Cw.18s 1V 1Cw.18t 1X 1Cw.18u 1C18g.18u 1Cw.18v 1C18g.18v 1Cw.18w
1C18g.18w 1Cw.18x 1C18g.18x 1Cw.18y 1C18g.18y 1D17l 2D17m 2D17n 2D17o 2D17p 2C17q 3C17r 2C17s
4C17t 2C17u 4C17v 4C17w 4C17x 4C17y 4C17z 2C180 2C181 2C182 2C183 4C184 4C185 4C186 4C187 4C188
4C189 4C18a 4C18h 4C18i 4C18j 4C18k 4C18l 4C18m 4C18n 4C18o 2C18p 2C18q 4C18k.17m 2C18k.17n
2C18k.17p 2C18k.17r 2X 2I 1X 1Dx wD2p qD2j 10D879 2C1a 1D9ho 2C9hd 1C9ob 1C9o2 1C9lt 1C9lv 1C9lx
1C9lz 1C9m1 1C9nn 1C9np 1C9nr 1C9mr 1C9oc 1C9lu 1C9lw 1C9ly 1C9m0 1D9m2 2C9m5 1C9m7 1C9m9 1C9mb
1C9md 1C9mf 1C9mh 1C9mj 1C9ml 1C9mn 1C9mp 1C9ms 1C9mu 1C9mw 1D9my 6C9n6 1C9n9 1C9nc 1C9nf 1D9ni
5C9no 1C9nq 1D9ns 6C9nz 1C9o3 1D9ll 2I 1D3cw 2C3hm 1C3cy 1D3ho 2D3cz 3D3hs 6C3dm 1D3d2 3C3dt 1D3d5
aX 3D3fl 6X 2D3fr 6X 2D3fx 6X 2D3g3 3X 3D4i 2C4s 1Cw.lg 1C4m 1C4l 1C6g9 1X 1C7b6 1D6mo 4C7fk 1C7gr
1X hV cX 1V qX 1V jX 1V 2X 1V fX 2V eX yV 3fX 5V 3X 4V 19X 3V 2gX 1V dX 3V 1X 1bV 1aX 3mV tX 3V
1dX fV sX 4V 10X 9V uX 5V 17X 5V uX 1V 11X 4V eX 16D1fe0 14V 3aX 2V aX 6D1fiw 10X 4V 10X 4V 14X 8V
1gX bV 1D1fo7 bX 1D1foj fX 1D1foz 7X 1D1fp7 2X 1V bX 1V fX 1V 7X 1V 2X 3V 1gX cV 8nX 9V mX aV 8X
oV 1Dk0 2C6e 1Cih 1Cgj 1X 1Cir 1Cxuu 1Cit 1Cis 1Dgm 2C5u9 1Cgo 1Cgu 1Cix 1Ch0 1Cgy 1Cgw 1Cij 1C87
1Cik 1Ch3 1Chw 1Diy 2Ch8 1C2mmc 1Cx3i 1Cha 1C2mmd 1Ci6 1C2mme 1C6w 1Dhi 2C35 1Chm 1C2mmg 1Dhp 2Chs
1Ciw 1Ciu 1Cxuv 1Civ 1Ci0 1C8s1 1X 1Ci7 1Dip 2Cig 1Dcg 3C2mmi 1C2mn2 1X 1xV 6X 2V 1X 1V 18X 1V 2X
3V 1X 2V nX 1V 20X 8V 9X 1cV jX 1V 2X 5V xX 3V rX 5V rX 12V 1kX 4V kX 2V 1eX 1V 2X 5V 8X 1V 3X 1V
tX 2V 3X 4V aX 7V 9X 7V 1sX wV 13X 4V cX 9V 1iX 3V tX 2V rX 5V qX 7V 4X cV 7X 28V 21X 1jD1h34 1fX
dV 1fX 7V 1aX 8V aX 6V gD1h80 mX 3V tX 8V 2X 5sV vX 1V 16X 1V 3X 2V 2X gV 6X 8V 9X xV 1aX 8V 16X
mV qX 12V sX kV nX 9V 26X 4V 10X 9V 1qX 1V 5X dV pX 7V aX 6V 1hX 1V iX 8V 13X 9V 2oX 1V kX bV iX
1V 1bX 1qV 7X 1V 1X 1V 4X 1V fX 1V bX 6V 1nX 5V aX 6V 4X 1V 8X 2V 2X 2V mX 1V 7X 1V 2X 1V 5X 1V aX
2V 2X 2V 3X 2V 1X 6V 1X 5V 7X 2V 7X 3V 5X bV aX 1V 1X 2V 1X 1V 12X 1V aX 1V 1X 2V 1X 1V 4X 1V aX
1V 2X 8V 2X tV 2kX 1V 5X uV 20X 8V aX 4mV 1iX 2V 12X yV 1xX bV aX 6V dX jV 1mX 6V aX 6V kX sV rX
2V fX 4V nX 55V 1oX 2sD1jgg wV 1fX cV 8X 2V 1X 2V 8X 1V 2X 1V uX 1V 2X 2V cX 9V aX 1yV 8X 2V 1aX
2V bX rV 20X 8V 2bX dV 21X 7V aX 2eV 8X 2gV yX eV aX 6V 9X 1V 19X 1V eX aV tX 3V wX 2V mX 1V eX
21V 7X 1V 2X 1V 18X 3V 1X 1V 2X 1V 9X 8V aX 6V 6X 1V 2X 1V 11X 1V 2X 1V 6X 7V aX 6V 18X 4V aX 6uV
pX 7V hX 1V 15X 3V tX 2dV 1X fV 1eX dV pnX 2uV 33X 1V 5X bV 5gX 218V 2rX dV tsX gV mX aV 32zX 5V
g7X 5a1V 1mX 1c6V ftX 7V vX 1V aX 4V 29X 1V aX 6V uX 2V 6X aV 1yX aV aX 1V 7X 1V lX 5V jX c0V 1mX
5iD20dc wV 1nX 5D20fv pX 2V pX 18V 23X 4V 1lX 7V hX 1sV 5X bV 7X 9V 5p2X 15V wX 2pV 37X 6ppV 4X 1V
7X 1V 2X 1V 83X fV 1X tV 3X 2V 1X eV 4X 8V b0X 1s4V 2zX 5V dX 3V 9X 7V aX 2V 4I 4X 318V 5yD2p qD1c
aV 3X 3V c4X 6V nX fV hX fV 1aX 2V nX 9V 38X 1oV 6uX aV 13X 2V 1hC2jx3.2jxh 1C2jx4.2jxh
1C2jx4.2jxh.2jxq 1C2jx4.2jxh.2jxr 1C2jx4.2jxh.2jxs 1C2jx4.2jxh.2jxt 1C2jx4.2jxh.2jxu 1V eI 8V
1sC2jzt.2jxh 1C2jzu.2jxh 1C2jzt.2jxh.2jxq 1C2jzu.2jxh.2jxq 1C2jzt.2jxh.2jxr 1C2jzu.2jxh.2jxr 1V
16X lV 1yX 3eV kX cV kX cV 2fX 9V pX 3rD2p qD2p qD2p qD2p 7X 1D2x iD2p qD2p qC2p 1X 1D2r 2X 2C2v
1X 2D2y 2X 2D32 4X 1D37 8D2p 4X 1C2u 1X 1D2w 7X 1D34 bD2p qD2p qD2p 2X 1D2s 4X 2D2y 8X 1D37 7X
1D2p qD2p 2X 1D2s 4X 1D2x 5X 1C33 1X 3D37 7X 1D2p qD2p qD2p qD2p qD2p qD2p qD2p qD2p qD2p qD2p
qD2p qD2p qD2p qC8h 1Cfr 1X 2Dq9 hCqg 1Dqr 7C6pz 1Dq9 hCqr 2Dqs 6C6pu 1Cqd 1Cqg 1Cqi 1Cqu 1Cqp
1Cqo 1Dq9 hCqg 1Dqr 7C6pz 1Dq9 hCqr 2Dqs 6C6pu 1Cqd 1Cqg 1Cqi 1Cqu 1Cqp 1Cqo 1Dq9 hCqg 1Dqr 7C6pz
1Dq9 hCqr 2Dqs 6C6pu 1Cqd 1Cqg 1Cqi 1Cqu 1Cqp 1Cqo 1Dq9 hCqg 1Dqr 7C6pz 1Dq9 hCqr 2Dqs 6C6pu 1Cqd
1Cqg 1Cqi 1Cqu 1Cqp 1Cqo 1Dq9 hCqg 1Dqr 7C6pz 1Dq9 hCqr 2Dqs 6C6pu 1Cqd 1Cqg 1Cqi 1Cqu 1Cqp 1Cqo
1Crh 2X 2D1c aD1c aD1c aD1c aD1c aV i4X fV 5X 1V fX uoV vX 6V 6X 5xV 7X 1V hX 2V 7X 1V 2X 1V 5X
5Dts 9Du2 3Du6 bCuj 1Dul 2Cww9 1Cyh 1Cuu 1Cuw 1Cyx 1Cxb 1Cy7 1Dts 9Du2 2Du6 2Cu9 1Dub 6Dui 2Cwh
1Cuu 1Cut 1Cv3 1Cx7 1Cwup 1Cxd 1X xV 1X 34V 19X 3V eX 2V aX 4V 2X 8wV vX hV 1mX 5V 1X cwV 16X 5yV
17X 4V 1X 5cV vX 1V mX 8V 2X 68V 7X 1V 4X 1V 2X 1V fX 1V 5hX 2V gX 15D2oma yV 16X 4V aX 4V 2X ltV
1wX 24V 1pX 5eD17r 2C17w 1C17z 1X 1C18o 1C182 1C17x 1C187 1C18q 1D18j 4C183 1C189 1C18h 1C185
1C18i 1C181 1C184 1D17u 2C17y 1C180 1C186 1C188 1C18a 1C19q 1C1bu 1C1b5 1C19r 1X 1C17s 1C17w 1X
1C18n 1X 2C17x 1X 1C18q 1D18j 4C183 1C189 1C18h 1C185 1C18i 1X 1C184 1D17u 2C17y 1X 1C186 1X 1C18a
1X 6C17w 1X 4C17x 1X 1C18q 1X 1C18k 1X 1C18m 1C183 1C189 1X 1C185 1C18i 1X 1C184 1X 2C17y 1X 1C186
1X 1C18a 1X 1C1bu 1X 1C19r 1X 1C17s 1C17w 1X 1C18n 1X 2C17x 1C187 1C18q 1C18j 1X 1D18l 2C183 1C189
1C18h 1C185 1C18i 1X 1C184 1D17u 2C17y 1X 1C186 1C188 1C18a 1C19q 1X 1C1b5 1X 1D17r 2C17w 1C17z
1D18n 2C182 1C17x 1C187 1C18q 1X 1D18k 3C183 1C189 1C18h 1C185 1C18i 1C181 1C184 1D17u 2C17y 1C180
1C186 1C188 1C18a 1X 5C17s 1C17w 1C17z 1X 1C18o 1C182 1C17x 1C187 1C18q 1X 1D18k 3C183 1C189 1C18h
1C185 1C18i 1C181 1C184 1D17u 2C17y 1C180 1C186 1C188 1C18a 1X 1gV 2X 7iV 18X 4V 2sX cV fX 2V fX
1V fX 1V 11X bC1c.18 1C1d.18 1C1e.18 1C1f.18 1C1g.18 1C1h.18 1C1i.18 1C1j.18 1C1k.18 1C1l.18 1V
5C14.2p.15 1C14.2q.15 1C14.2r.15 1C14.2s.15 1C14.2t.15 1C14.2u.15 1C14.2v.15 1C14.2w.15 1C14.2x.15
1C14.2y.15 1C14.2z.15 1C14.30.15 1C14.31.15 1C14.32.15 1C14.33.15 1C14.34.15 1C14.35.15 1C14.36.15
1C14.37.15 1C14.38.15 1C14.39.15 1C14.3a.15 1C14.3b.15 1C14.3c.15 1C14.3d.15 1C14.3e.15
1C9hw.37.9hx 1C2r 1C36 1C2r.2s 1C3b.3e 1V 1D2p qC2w.3a 1C31.3a 1C37.2s 1C37.37 1C34.34.3a 1C3b.2r
1V qC31.2r 1C31.2s 1C31.36 1V zC2s.2y 1V tX 1kV qC9kr.9jf 1C9mb.9mb 1C9md 1X dCjez 1Ci1j 1Cgjw
1C9mv 1Cfik 1Chlm 1Cr8j 1Chm1 1Cfj8 1Ck68 1Cmch 1Ck2h 1Cg99 1Civg 1Cg3x 1Ck34 1Cg7x 1Coqq 1Cn4v
1Crs9 1Chkg 1Cgmx 1Clxw 1Cjh1 1Cjmd 1Cfeo 1Cfex 1Csi2 1Cijq 1Cffx 1Cgkz 1Cjk7 1Crxs 1Cjf7 1Co01
1Co6y 1Cglk 1Clts 1Ckcp 1Ckco 1Cn5f 1Cgaa 1Cgxi 1Csp9 1X 4C9hw.kdo.9hx 1C9hw.fex.9hx 1C9hw.fik.9hx
1C9hw.i2x.9hx 1C9hw.m9l.9hx 1C9hw.jf7.9hx 1C9hw.nh3.9hx 1C9hw.gd9.9hx 1C9hw.k0n.9hx 1X 7Civr 1Cgkv
1X eV 6X 4aV rdX 3V hX 3V dX 3V 62X 6V cX 4V 1X fV cX 4V 1kX 8V aX 6V 14X 8V uX 2V cX 4V 2X eV 9X
13V 9kX 8V eX 2V dX 3V bX 3V 1lX 1V 1X 4V gX 2V cX 4V aX 7V 43X 1V 2kD1c aV 1X slV wyoX wV 3dqX 2V
4geX 2V 5rlX fV haX 1wiCfgd 1Cfg8 1Cfgh 1C2tcy 1Cfog 1Cfqm 1Cfqz 1Cfsy 1Cfwa 1Cfx5 1Cfzb 1Cfyn
1Cae6 1C2ud6 1Cg25 1Cg2c 1Cg2s 1Cg3b 1C2u58 1Caex 1Cg2v 1Cg3x 1C2u6j 1Cg47 1Cg4k 1Cfkc 1Cg4s 1Cg51
1C3ly7 1Cg6t 1Cg77 1Cafz 1Cg8r 1Cg92 1Cgaa 1Cgaf 1Cahh 1Cgcn 1Cgcp 1Cgdg 1Cge2 1Dged 2Cgev 1Cgg9
1Cggh 1Cggq 1Cghf 1Cghp 1Cghr 3C2v58 1Cm7k 1Cgju 1Cgkf 1C2vdv 1Cgkr 1Cgkx 1Cgli 1Cgpq 1Cgmw 1Cgnc
1Cgo8 1Cgpu 1Cgs6 1Cgsw 1Cgur 1Cgv7 1Cgw4 2Cgwp 1Cgx7 1Cgxf 1Cgxu 1Ch7a 1Cgzq 1Ch7b 1Ch1t 1Ch2s
1Cg7b 1Chke 1Chce 1Chdg 1Che5 1Chaj 1Chf6 1Chf5 1Chik 1C2x9g 1Chki 1Chkn 1Chl2 1Chlm 1Chlu 1Chnm
1C2xm0 1C2xnu 1Chrg 1Chsr 1Cht3 1Chqw 1Chuu 1Caum 1Cav0 1Chzc 1Ci0u 2C2y88 1Ci4j 1Ci54 1Ci5j 1Ci5v
1C2yhk 1Ci67 1Ci6e 1Citv 1Ci76 1Cayp 1Ci8w 1Ci9a 1Cibk 1Cia5 1C2z1g 1Cif7 1C2z1i 1Cige 1Cigb 1Cigs
1Dijl 2Cb3j 1Cikd 1Cilk 1Cim5 1Cind 1Cb4y 1C2zr7 1Cb5o 1Cipc 1Cipf 1Cipi 1Ciq2 1C3pg2 1Ciri 1C3035
2Cpoh 1Cisi 2Cb7r 1C335k 1C3cgq 1Ciua 1Ciuj 1Cb8j 1Civu 1Cix9 1Cixj 1Ciyh 1Cj29 1Cbay 1Cba4 1Cj2s
1C30t0 1Cj47 1Cj7s 1Cj7w 1Cj7y 1Cj7w 1Cj96 1Cj9q 1Cjaq 1Cjac 1Cjan 1Cjby 1Cjci 1Cjcm 1Cjdc 1Cjdn
1Cjfh 1Cjht 1Cjis 1Cjm8 1C31n0 1Cjlp 1Cjjw 1Cjmw 1Cjnn 1Cjqc 1C31td 1Cjs2 1Cjph 1Cjop 1Cbhq 1Cju1
1Cjum 1Cjvh 1Cjuf 1Cbjg 1Ck0f 1Ck18 1C32mi 1Ck4j 1Ckc8 1Ck7d 1Cbo9 1Ck9d 1Cbns 1Cbms 1Cg42 1Cg45
1Ckcg 1Ck9o 1Cpf1 1Cdeh 1Ckd3 1Ckd7 1Ckdd 1Ckf2 1Cker 1C33cz 1Cbpl 1Ckje 1Ckg5 1Cklu 1Ckn9 1C33hp
1Ckni 1Ckkf 1Ckr8 1Cbrx 1Cksi 1Ckv7 1Ckx6 1Cl2g 1C33xf 1Cl3v 1Cbvc 1Cl5t 1C34br 1Cl78 1Cbwu 1Cl82
1Cl9b 1Dla2 2C34p9 1C2yvf 1C34sa 1Cle6 1C354s 1Clhb 1Clhp 1Clev 1Cljq 1Clku 1Clmf 1Clkx 1Clm1
1Clmg 1Clmt 1C357i 1Clkk 1Clrj 1Clta 1Cc37 1Clvv 1Clvr 1C35jl 1Clq1 1Cm0e 1C35ni 1C35ou 1Cm2u
1Cm61 1Cm5a 1Cm57 1Cc5y 1Cm6i 1Cm7x 1Cm7r 1Cm99 1C2u5h 1Cmdh 1C368z 1Cmfw 1C36i3 1Cmjs 1Cmk5 1Cmkw
1C36yw 1Cmm8 1Cmmt 1C3779 1C37dg 1Cmt6 1Cmtn 1Ccdo 1Cmud 1Cce0 2Cmyv 1Cmzg 1Cn01 1Cn0l 1Cn2i 1Ccgr
1Cn50 1C386u 1Cn5q 1C389e 1Cn74 1C2zrz 1Cnbk 1C38v5 1C38vs 1C38zo 1Ccn0 1Ccnc 1Cnhw 1C394j 1C394i
1C395l 1C396b 1Dnj2 2Cnj3 1Cnka 1Ccop 1Cnm3 1Ccp2 1Ccra 1C39r1 1Cnri 1Cnt8 1Cnv0 1Cctf 1C3a5i
1Cnyu 1C3a8q 1C3a9x 1Co0f 1Co2z 1Ccvj 1Co5c 1Co5m 1Co5r 1C3at8 1C3b1j 2Coa6 1Cd1e 1C3b8r 1Cog6
1Cog9 1Cd2f 1C3beo 1Conm 1Cd5s 1Coo8 1Coo3 1Coow 1C3c06 1Corn 1Cd8h 1Couf 1Cow2 1Coxx 1Cd9w 1C3ciw
1C3cjr 1Cdax 1C3cnt 1Cp6i 1C3cqm 1Cp79 1Cpa2 1Cpad 1C3d22 1C3d43 1Cpcw 1C3d7s 1Cpdc 1C33a7 1Cded
1Cpf6 1Cphf 1Cdfv 1Cpj2 1Chx1 1C3dlz 1C3dmd 1C33bn 1C33bw 1Cpoh 1Cpok 1Csda 1Cdij 1Cpsh 1Cpsb
1Cpst 1Cgc3 1Cptd 1Cptf 1Cptp 1Cpuu 1C3ebg 1Cput 1Cpwd 1Cpyb 1Cq0d 1Cpwj 1Cq0t 1Cq1z 1Cq53 1Cpxv
1Cq16 1Cq18 1Cq1o 1C3eie 1C3eqz 1C3emt 1Cdnv 1Cq9d 1Cq9f 1Cqae 1C3g0a 1Cqck 1C3f3g 1Cdp9 1Cdpd
1C3f75 1C3ff6 1Cdpn 1Cqj4 1Cqjg 1Cqjr 1Cqjt 1Cqll 1Cqko 1Cqoe 1Cqn6 1Cqrd 1Cqp4 1Cqqz 1Cqrq 1Cdsn
1Cqu9 1Cqv5 1Cdtl 1Cqxs 1Cqxv 1C3giv 1Cr13 1Cr1a 1Cdv9 1Cr22 1Caez 1C3gz2 1C3h46 1Cdz2 1Cdzb 1Crds
1Crfx 1Crka 1Crpx 1C3hrc 1Crsb 1Crsx 1Crvf 1Crxz 1C3i9b 1C2upw 1Cs0b 1Crzw 1Cs1c 1C2uvy 1Cs7o
1Csag 1C3jki 1C3jl9 1Csk4 1Csmp 1Csnl 1C3ju6 1Csnv 1Csvs 1Dt07 2Csxo 1Ct89 1Ct91 1C3ksa 1Ctjf
1Cej9 1Ctkn 1C3l2v 1Celi 1Cts3 1Ciia 1Ctur 1C3ltx 1C3lzu 1Cepa 1Cepi 1Cu00 1C3mdm 1Cer6 1C3mhi
1Cu17 2Cu21 1C3mpi 1Cu76 1Ceur 1Cu95 1Cucn 1Cude 1Cuf2 1Cez2 1C3nsg 1Cumq 1Cuv4 1Cv0d 1Cf66 1Cf71
1Cv3b 1C3owe 1Cf7c 1C3oxx 1C3p5a 1C3p8x 1Cvcr 1Cf9y 1Cveh 1Cvem 1Cvet 1Cvf3 1Cvfa 1Cvgb 1C3pxc 1X
15uV 3t7X 5V 6juX f62uI 6oX"

/-- What the mapping step does with a character. -/
inductive HostMapping where
  | valid
  | refused
  | replaced (text : List Char)
  deriving DecidableEq, Repr

/-- What is done with a character of a run. -/
def Run.hostMapping (r : Run) (c : Char) : HostMapping :=
  let offset := c.toNat - r.start
  if r.kind = 'V' then .valid
  else if r.kind = 'I' then .replaced []
  else if r.kind = 'C' then .replaced (r.numbers.map Char.ofNat)
  else if r.kind = 'D' then .replaced [Char.ofNat (r.numbers.headD 0 + offset)]
  else if r.kind = 'A' then
    if offset % 2 = 0 then .replaced [Char.ofNat (c.toNat + 1)] else .valid
  else .refused

/-- The mapping of a character. -/
def hostMapping (c : Char) : HostMapping := (hostRuns.find? c).elim .refused (·.hostMapping c)

end AcmeClient.Unicode
