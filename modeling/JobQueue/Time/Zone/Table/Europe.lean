/-!
# Zone table: Europe

Recorded offset histories, one zone per entry, in the format read by `ZoneTable.parseLine`.
-/

namespace JobQueue.ZoneTable

/-- Zones of Europe. -/
def europe : List String := [
  "Europe/Andorra|364|0,3600,7200|-2nmn2k0 1zH4Uk1 1kdQHu2 13YJO1 13YJO2 13YJO1 13YJO2 13YJO1 13YJO2 13YJO1 13YJO2 13YJO1 13YJO2 16w4E1 13YJO2 13YJO1 13YJO2 13YJO1 13YJO2 13YJO1 13YJO2 13YJO1 13YJO2 13YJO1|3600,7200,3.5.0/7200,10.5.0/10800",
  "Europe/Astrakhan|11532|10800,14400,18000|-1zxkWE0 d6MHi1 1KrKjS2 14khi1 13ZFS2 14khi1 13ZFS2 14khi1 14m9q2 140BW1 13YJO2 13YJO1 13YJO2 13YJO1 13YJO2 13YJO1 13YJO2 13YJO1 27YpG0 13YJO1 16w4E0 13YJO1 3bWdq0 13YJO1 13YJO0 13YJO1 13YJO0 13YJO1 13YJO0 16w4E1 1e85a0 TPos1 1e85a0 TPos1 1e85a0 TPos1 1gFq00 Ri3C1 1gFq00 Ri3C1 1gFq00 TPos1 1e85a0 TPos1 1e85a0 TPos1 1gFq00 Ri3C1 1gFq00 Ri3C1 1gFq00 Ri3C1 1gFq00 TPos1 1e85a0 TPos1 1e85a0 TPos1 1gFq00 Ri3C1 7EwUM0 31NO81|",
  "Europe/Athens|5692|7200,10800,3600|-1Q6I3C0 y2YKY1 khKE0 imlq01 8k1y0 3dOlq2 RCF20 168F22 14m9q0 hBbAA1 IW9W0 LVh2E1 1kEF20 NHag1 13YJO0 11roY1 11NSw0 169B61 11sl20 16BH21 13uLK0 153eo1 13eQE0 142u41 13YJO0 13YJO1 13YJO0 13YJO1 13YJO0 13YJO1 16w4E0 13YJO1 13YJO0 13YJO1 13YJO0 13YJO1 13YJO0 13YJO1 13YJO0 13YJO1 13YJO0 13YJO1 16w4E0 13YJO1 13YJO0 13YJO1 13YJO0 13YJO1 13YJO0 13YJO1 13YJO0 13YJO1 13YJO0|7200,10800,3.5.0/10800,10.5.0/14400",
  "Europe/Belgrade|4920|3600,7200|-2XFjlK0 1YmyWk1 3hMEo0 Ri3C1 16w4E0 13YJO1 13YJO0 1h1Ty1 LuqQ0 1i8M6c1 13YJO0 13YJO1 16w4E0 13YJO1 13YJO0 13YJO1 13YJO0 13YJO1 13YJO0 13YJO1 13YJO0 13YJO1 13YJO0 13YJO1 16w4E0 13YJO1 13YJO0 13YJO1 13YJO0 13YJO1 13YJO0 13YJO1 13YJO0 13YJO1 13YJO0|3600,7200,3.5.0/7200,10.5.0/10800",
  "Europe/Berlin|3208|3600,7200,10800|-2DUGZG0 Ni4Aw1 TtQY0 19rLa1 TPos0 1e85a1 TPos0 K0lMI1 5wAne0 Ri3C1 16w4E0 13YJO1 13YJO0 13YJO1 iPQs2 IACs1 jX9e0 Ri3C1 11NSw0 13Dck1 cFK82 hKpO1 zxDO0 193pu1 YU480 16w4E1 11roY0 139Z5e1 11roY0 13YJO1 13YJO0 13YJO1 13YJO0 13YJO1 13YJO0 13YJO1 16w4E0 13YJO1 13YJO0 13YJO1 13YJO0 13YJO1 13YJO0 13YJO1 13YJO0 13YJO1 13YJO0 13YJO1 16w4E0 13YJO1 13YJO0 13YJO1 13YJO0 13YJO1 13YJO0 13YJO1 13YJO0 13YJO1 13YJO0|3600,7200,3.5.0/7200,10.5.0/10800",
  "Europe/Brussels|1050|0,3600,7200|-2FS7OE0 M5LVu1 39Kq42 TsUU1 19rLa2 TPos1 1e85a2 TPos1 ks3m0 E3F61 1gFq00 MdnW1 1tm6c0 PtFS1 1jzeo0 SJXO1 193pu0 193pu1 YU480 11roY1 16w4E0 13YJO1 13YJO0 193pu1 YU480 16w4E1 11roY0 193pu1 11uda0 193pu1 YU480 16w4E1 11roY0 193pu1 YU480 13YJO1 13YJO0 11roY1 193pu0 13YJO1 13YJO0 11roY1 16w4E0 193pu1 YU480 13YJO1 13YJO0 11roY1 16w4E0 193pu1 1gFq00 zwHK1 uOvC2 5eO5i1 Ri3C2 16w4E1 13YJO2 YxAA1 19pT22 YxAA1 1qOLm2 P7ck1 1375gQ2 11roY1 16w4E2 13YJO1 13YJO2 13YJO1 16w4E2 11roY1 13YJO2 13YJO1 13YJO2 13YJO1 13YJO2 13YJO1 13YJO2 16w4E1 13YJO2 13YJO1 13YJO2 13YJO1 13YJO2 13YJO1 13YJO2 13YJO1 13YJO2 13YJO1 13YJO2 16w4E1 13YJO2 13YJO1 13YJO2 13YJO1 13YJO2 13YJO1 13YJO2 13YJO1 13YJO2 13YJO1|3600,7200,3.5.0/7200,10.5.0/10800",
  "Europe/Bucharest|6264|7200,10800|-1k6fnW0 1LtGw1 MzRu0 13YJO1 13YJO0 16w4E1 13YJO0 13YJO1 13YJO0 13YJO1 13YJO0 13YJO1 13YJO0 13YJO1 13YJO0 13YJO1 13YJO0 1mGspi1 JF720 16w4E1 11sl20 140BW1 13YJO0 13YJO1 13YJO0 13YJO1 13YJO0 13YJO1 16w4E0 13YJO1 13YJO0 13YJO1 13YJO0 13YJO1 13YJO0 13YJO1 13YJO0 13YJO1 13YJO0 13YJO1 16w4E0 13WRG1 13YJO0 13YJO1 13YJO0 13YJO1 13YJO0 13YJO1 13XNK0 13ZFS1 13XNK0 16x0I1 1e7960|7200,10800,3.5.0/10800,10.5.0/14400",
  "Europe/Budapest|4580|3600,7200|-2J4rHu0 SrPik1 TtQY0 19rLa1 TPos0 1e85a1 TPos0 1euyI1 TsUU0 1bAKk1 YU480 HSHYs1 3lLTq0 Ri3C1 16w4E0 13YJO1 13YJO0 1eOe41 14m9q0 Spmo1 16RC80 13Dck1 13YJO0 13YJO1 13YJO0 16w4E1 11roY0 9U5sQ1 McrS0 1lMTS1 MdnW0 1qOLm1 H8Ig0 1qOLm1 H8Ig0 M5K3m1 11roY0 13YJO1 13YJO0 13YJO1 13YJO0 13YJO1 13YJO0 140BW1 16w4E0 13YJO1 13YJO0 13YJO1 13YJO0 13YJO1 13YJO0 13YJO1 13YJO0 13YJO1 13YJO0 13YJO1 16w4E0 13YJO1 13YJO0 13YJO1 13YJO0 13YJO1 13YJO0 13YJO1 13YJO0 13YJO1 13YJO0|3600,7200,3.5.0/7200,10.5.0/10800",
  "Europe/Chisinau|6920|6900,6264,7200,10800,3600,14400|-36cYac0 1jpO041 sGUMc2 1LtGw3 MzRu2 13YJO3 13YJO2 16w4E3 13YJO2 13YJO3 13YJO2 13YJO3 13YJO2 13YJO3 13YJO2 13YJO3 13YJO2 13YJO3 13YJO2 1RE1W3 1XNcc2 2LxaE4 Ri3C2 16w4E4 13YJO2 PNle3 1gaAyk5 14khi3 13ZFS5 14khi3 13ZFS5 14khi3 14m9q5 140BW3 13YJO5 13YJO3 13YJO5 13YJO3 13YJO5 13YJO3 13YJO5 13YJO3 13YJO5 13YJO3 13YJO5 fd4Y3 RjVK2 13YJO3 13YJO2 13WRG3 13XNK2 13ZFS3 13XNK2 13ZFS3 13XNK2 13ZFS3 13XNK2 16x0I3 1e7962|7200,10800,3.5.0/7200,10.5.0/10800",
  "Europe/Dublin|-1521|2079,0,3600|-1QviJp0 MdnW1 16vG72 WJcQ1 169B62 16Syc1 13Cgg2 14ldm1 13Cgg2 1euyI1 W0fK2 14ldm1 114Vq2 193pu1 193pu2 Ri3C1 1e85a2 WmJi1 1e85a2 YU481 193pu2 YU481 16w4E2 11roY1 1bAKk2 YU481 193pu2 YU481 16w4E2 11roY1 193pu2 YU481 193pu2 YU481 16w4E2 13YJO1 193pu2 YU481 16w4E2 11roY1 193pu2 YU481 193pu2 YU481 16w4E2 11roY1 193pu2 1gFq01 zwHK2 e7uXm1 WmJi2 1lK5G1 YU482 193pu1 TPos2 1e85a1 YU482 16w4E1 11roY2 16w4E1 13YJO2 16w4E1 11roY2 YU481 16w4E2 11roY1 193pu2 YU481 1bAKk2 YU481 16w4E2 11roY1 193pu2 YU481 193pu2 YU481 16w4E2 11roY1 11roY2 1gFq01 Ri3C2 1gFq01 TPos2 1e85a1 Ri3C2 1gFq01 Ri3C2 1gFq01 Ri3C2 1gFq01 Ri3C2 1jcKQ1 EBnq2 7TLRS1 OKIM2 1jcKQ1 OKIM2 1jcKQ1 OKIM2 1jcKQ1 OKIM2 1jcKQ1 Ri3C2 1gFq01 Ri3C2 1gFq01 Ri3C2 1jcKQ1 OKIM2 1jcKQ1 OKIM2 1jcKQ1 TOso2 1e85a1 TPos2 1e85a1 TPos2 1e85a1 TPos2 1gFq01 TPos2 1e85a1 TPos2 1e85a1 TPos2 1e85a1 TPos2 1e85a1 TPos2 1gFq01 Ri3C2 1gFq01 TPos2 1e85a1 TPos2 1e85a1 TPos2 1e85a1 TPos2 1e85a1 TPos2 1e85a1|0,3600,3.5.0/3600,10.5.0/7200",
  "Europe/Gibraltar|-1284|0,3600,7200|-34Xm2w0 1es2UA1 MdnW0 16w4E1 WJcQ0 169B61 16Syc0 13Cgg1 14ldm0 13Cgg1 1euyI0 W0fK1 14ldm0 114Vq1 193pu0 193pu1 Ri3C0 1e85a1 WmJi0 1e85a1 YU480 193pu1 YU480 16w4E1 11roY0 1bAKk1 YU480 193pu1 YU480 16w4E1 11roY0 193pu1 YU480 193pu1 YU480 16w4E1 13YJO0 193pu1 YU480 16w4E1 11roY0 193pu1 YU480 193pu1 YU480 16w4E1 11roY0 193pu1 1gFq00 zwHK1 2xjTW2 zwHK1 1ohqw2 JG361 1ohqw2 MdnW1 1lK5G2 YU481 19pT22 BHz21 usY80 16w4E1 11roY0 WmJi1 a8pi2 H8Ig1 usY80 MdnW1 1lK5G0 TPos1 1e85a0 YU481 16w4E0 11roY1 16w4E0 13YJO1 16w4E0 11roY1 YU480 16w4E1 11roY0 193pu1 YU480 1bAKk1 YU480 16w4E1 Ri2FW2 13YJO1 13YJO2 13YJO1 13YJO2 16w4E1 13YJO2 13YJO1 13YJO2 13YJO1 13YJO2 13YJO1 13YJO2 13YJO1 13YJO2 13YJO1 13YJO2 16w4E1 13YJO2 13YJO1 13YJO2 13YJO1 13YJO2 13YJO1 13YJO2 13YJO1 13YJO2 13YJO1|3600,7200,3.5.0/7200,10.5.0/10800",
  "Europe/Helsinki|5989|7200,10800|-1FWDQh0 IGpLf1 14HGU0 1kbGMg1 13YJO0 13YJO1 13YJO0 13ZFS1 13YJO0 13YJO1 16w4E0 13YJO1 13YJO0 13YJO1 13YJO0 13YJO1 13YJO0 13YJO1 13YJO0 13YJO1 13YJO0 13YJO1 16w4E0 13YJO1 13YJO0 13YJO1 13YJO0 13YJO1 13YJO0 13YJO1 13YJO0 13YJO1 13YJO0|7200,10800,3.5.0/10800,10.5.0/14400",
  "Europe/Istanbul|6952|7016,7200,10800,14400|-36cYaI0 13Fa3m1 bVbIc2 TrYQ1 7rS6I2 1etCE1 W1bO2 14khi1 115Ru2 192tq1 3pmMM2 P6gg1 1eRYk2 TrYQ1 vuWje2 z9i81 kjCM2 1Izba1 17Crm2 7wbXa1 1nzpu2 IdcQ1 1aSJi2 YT841 194ly2 YT841 16x0I2 11qsU1 194ly2 11qsU1 194ly2 YT841 n0bPq2 2L60M1 19NiE2 Onja1 iw9dS2 TPos1 RiZG2 1gEtW1 Opbi2 1jyik1 OLEQ2 1jbOM1 TQkw2 192tq1 YV0c2 bnsv63 mP5u2 2jzFe1 ZD1e2 WmJi1 14ldm2 13YJO1 13YJO2 13YJO1 13YJO2 13YJO1 13YJO2 13YJO1 13YJO2 16w4E1 13YJO2 13YJO1 13YJO2 13YJO1 13YJO2 13YJO1 11roY2 16w4E1 13YJO2 13YJO1 16w4E2 1e85a1 TPos2 1e85a1 TPos2 1e85a1 TPos2 1gFq01 Ri3C2 1gFq01 Ri3C2 1gFq01 TPos2 1e85a1 TPos2 1e85a1 TPos2 1gFq01 Ri3C2 1gFq01 Ri3C2 1gFq01 RjVK2 1gFq01 TPos2 1e85a1 TPos2 1e85a1 TPos2 1gFq01 RExa2 1giWs1 Ri3C2 1gFq01 TPos2 1e85a1 UbS02 1dLBC1 TPos2 1jcKQ1 OKIM2|",
  "Europe/Kaliningrad|4920|3600,7200,10800,14400|-2DUHri0 Ni5281 TtQY0 19rLa1 TPos0 1e85a1 TPos0 K0lMI1 5wAne0 Ri3C1 16w4E0 13YJO1 13YJO0 13YJO1 9K3C2 15pHW1 UVLa2 1cIkTe3 14khi2 13ZFS3 14khi2 13ZFS3 14khi2 14m9q3 140BW2 13YJO3 13YJO2 13YJO3 13YJO2 13YJO3 13YJO2 13YJO3 13YJO2 27YpG1 13YJO2 16w4E1 13YJO2 13YJO1 13YJO2 13YJO1 13YJO2 13YJO1 13YJO2 13YJO1 13YJO2 13YJO1 16w4E2 1e85a1 TPos2 1e85a1 TPos2 1e85a1 TPos2 1gFq01 Ri3C2 1gFq01 Ri3C2 1gFq01 TPos2 1e85a1 TPos2 1e85a1 TPos2 1gFq01 Ri3C2 1gFq01 Ri3C2 1gFq01 Ri3C2 1gFq01 TPos2 1e85a1 TPos2 1e85a1 TPos2 1gFq01 Ri3C2 7EwUM1|",
  "Europe/Kirov|11928|10800,14400,18000|-1JRvB60 nqXlK1 1KrKjS2 14khi1 13ZFS2 14khi1 13ZFS2 14khi1 14m9q2 140BW1 13YJO2 13YJO1 13YJO2 13YJO1 13YJO2 13YJO1 13YJO2 13YJO1 27YpG0 13YJO1 16w4E0 13YJO1 3bWdq0 13YJO1 13YJO0 13YJO1 13YJO0 13YJO1 13YJO0 16w4E1 1e85a0 TPos1 1e85a0 TPos1 1e85a0 TPos1 1gFq00 Ri3C1 1gFq00 Ri3C1 1gFq00 TPos1 1e85a0 TPos1 1e85a0 TPos1 1gFq00 Ri3C1 1gFq00 Ri3C1 1gFq00 Ri3C1 1gFq00 TPos1 1e85a0 TPos1 1e85a0 TPos1 1gFq00 Ri3C1 7EwUM0|",
  "Europe/Kyiv|7324|7200,10800,3600,14400|-1zwXne0 d6q3W1 o1Bmg0 2nYc02 Ri3C0 16w4E2 bVQY1 1hSqMo3 14khi1 13ZFS3 14khi1 13ZFS3 14khi1 14m9q3 140BW1 13YJO3 13YJO1 13YJO3 13YJO1 13YJO3 13YJO1 13YJO3 13YJO1 13YJO3 13YJO1 13YJO3 zvLG1 2EYIE0 13YJO1 13YJO0 13YJO1 13YJO0 13YJO1 13YJO0 13YJO1 13YJO0 16w4E1|7200,10800,3.5.0/10800,10.5.0/14400",
  "Europe/Lisbon|-2205|0,3600,7200|-1ZS6uA0 9wTTO1 NjKE0 HvbO1 1kDIY0 NGec1 1kDIY0 NGec1 1kDIY0 O2HK1 1kDIY0 NGec1 1kDIY0 5lI4M1 ZZuM0 3h0T61 YU480 16w4E1 11roY0 193pu1 11roY0 193pu1 YU480 3h0T61 YU480 13YJO1 13YJO0 3etyg1 13YJO0 11roY1 16w4E0 193pu1 YU480 13YJO1 13YJO0 11roY1 16w4E0 193pu1 1gFq00 zwHK1 1jVHW0 13fMI1 14ldm0 W0fK1 fd4Y2 EBnq1 pois0 OKIM1 cFK82 MdnW1 mQXC0 MdnW1 fd4Y2 JG361 mQXC0 MdnW1 fd4Y2 JG361 mQXC0 WmJi1 13YJO0 141y01 13YJO0 13YJO1 13YJO0 13YJO1 13YJO0 13YJO1 13YJO0 13YJO1 16w4E0 13YJO1 13YJO0 13YJO1 13YJO0 13YJO1 13YJO0 13YJO1 13YJO0 13YJO1 16w4E0 13YJO1 13YJO0 13YJO1 13YJO0 13YJO1 13YJO0 13YJO1 13YJO0 13YJO1 13YJO0 13YJO1 16w4E0 13YJO1 13YJO0 13YJO1 13YJO0 13YJO1 13YJO0 13YJO1 mo4YE0 13YJO1 13YJO0 16x0I1 13YJO0 13YJO1 13YJO0 16w4E1 11roY0 13XNK1 13YJO0 13YJO1 13YJO0 13YJO1 13YJO0 13YJO1 16w4E0 13YJO1 13YJO0 13ZFS1 13YJO0 13YJO1 13YJO0 13YJO1 13YJO0 13YJO1 13YJO0 13YJO1 16w4E0 13YJO1 13YJO0 13YJO1 27XtC2 13YJO1 13YJO2 13YJO1 13YJO2 13YJO1 2kE9O0|0,3600,3.5.0/3600,10.5.0/7200",
  "Europe/London|-75|0,3600,7200|-4cJnsV0 2me4kZ1 MdnW0 16w4E1 WJcQ0 169B61 16Syc0 13Cgg1 14ldm0 13Cgg1 1euyI0 W0fK1 14ldm0 114Vq1 193pu0 193pu1 Ri3C0 1e85a1 WmJi0 1e85a1 YU480 193pu1 YU480 16w4E1 11roY0 1bAKk1 YU480 193pu1 YU480 16w4E1 11roY0 193pu1 YU480 193pu1 YU480 16w4E1 13YJO0 193pu1 YU480 16w4E1 11roY0 193pu1 YU480 193pu1 YU480 16w4E1 11roY0 193pu1 1gFq00 zwHK1 2xjTW2 zwHK1 1ohqw2 JG361 1ohqw2 MdnW1 1lK5G2 YU481 19pT22 BHz21 usY80 16w4E1 11roY0 WmJi1 a8pi2 H8Ig1 usY80 MdnW1 1lK5G0 TPos1 1e85a0 YU481 16w4E0 11roY1 16w4E0 13YJO1 16w4E0 11roY1 YU480 16w4E1 11roY0 193pu1 YU480 1bAKk1 YU480 16w4E1 11roY0 193pu1 YU480 193pu1 YU480 16w4E1 11roY0 11roY1 1gFq00 Ri3C1 1gFq00 TPos1 1e85a0 Ri3C1 1gFq00 Ri3C1 1gFq00 Ri3C1 1gFq00 Ri3C1 1jcKQ0 EBnq1 7TLRS0 OKIM1 1jcKQ0 OKIM1 1jcKQ0 OKIM1 1jcKQ0 OKIM1 1jcKQ0 Ri3C1 1gFq00 Ri3C1 1gFq00 Ri3C1 1jcKQ0 OKIM1 1jcKQ0 OKIM1 1jcKQ0 TOso1 1e85a0 TPos1 1e85a0 TPos1 1e85a0 TPos1 1gFq00 TPos1 1e85a0 TPos1 1e85a0 TPos1 1e85a0 TPos1 1e85a0 TPos1 1gFq00 Ri3C1 1gFq00 TPos1 1e85a0 TPos1 1e85a0 TPos1 1e85a0 TPos1 1e85a0 TPos1 1e85a0|0,3600,3.5.0/3600,10.5.0/7200",
  "Europe/Madrid|-884|0,3600,7200|-2nmmWs0 AUYes1 115Ru0 13XNK1 14m9q0 9FBkY1 100qQ0 3gZX21 YV0c0 16v8A1 11sl20 193pu1 11roY0 192tq1 YV0c0 gr2Ks1 Dapi0 13XNK1 a8pi2 UbS01 2aad20 WlNe1 4xFn22 HSBq1 1l0cw2 YV0c1 192tq2 YV0c1 192tq2 YV0c1 192tq2 YV0c1 5wzra2 TQkw1 Qodhu2 11sl21 16v8A2 11sl21 11qsU2 13ZFS1 16v8A2 11sl21 16xWM2 13YJO1 13YJO2 13YJO1 16w4E2 11roY1 13YJO2 13YJO1 13YJO2 13YJO1 13YJO2 13YJO1 13YJO2 16w4E1 13YJO2 13YJO1 13YJO2 13YJO1 13YJO2 13YJO1 13YJO2 13YJO1 13YJO2 13YJO1 13YJO2 16w4E1 13YJO2 13YJO1 13YJO2 13YJO1 13YJO2 13YJO1 13YJO2 13YJO1 13YJO2 13YJO1|3600,7200,3.5.0/7200,10.5.0/10800",
  "Europe/Malta|3484|3600,7200|-2CEKBe0 MetkM1 H7Mc0 13ZFS1 14khi0 W1bO1 1etCE0 QWw81 1gEtW0 YV0c1 13XNK0 G9sEo1 55qve0 Ri3C1 16w4E0 13Cgg1 YU480 19pT21 Y9eU0 14n5u1 1bAKk0 WkRa1 1bAKk0 RjVK1 1gFq00 BEDlu1 JF720 1qPHq1 H8Ig0 1qOLm1 H8Ig0 1tm6c1 H8Ig0 1qOLm1 H8Ig0 1ohqw1 JG360 1qOLm1 JG360 13Cgg1 13YJO0 1bXdS1 RExa0 1gkOA1 TOso0 1e91e1 TOso0 1e91e1 TOso0 1e91e1 TOso0 1e91e1 TOso0 19qP61 113Zm0 16x0I1 13YJO0 13YJO1 13YJO0 13YJO1 13YJO0 13YJO1 16w4E0 13YJO1 13YJO0 13YJO1 13YJO0 13YJO1 13YJO0 13YJO1 13YJO0 13YJO1 13YJO0 13YJO1 16w4E0 13YJO1 13YJO0 13YJO1 13YJO0 13YJO1 13YJO0 13YJO1 13YJO0 13YJO1 13YJO0|3600,7200,3.5.0/7200,10.5.0/10800",
  "Europe/Minsk|6616|6600,7200,10800,3600,14400|-36cY5i0 1wG0TK1 d6pSg2 nx9kc1 2Sqe43 Ri3C1 16w4E3 13YJO1 wWyI2 1gtrkQ4 14khi2 13ZFS4 14khi2 13ZFS4 14khi2 14m9q4 140BW2 13YJO4 13YJO2 13YJO4 13YJO2 13YJO4 13YJO2 13YJO4 13YJO2 13YJO4 13YJO2 4ite81 13YJO2 13YJO1 13YJO2 13YJO1 13YJO2 13YJO1 13YJO2 13YJO1 16w4E2 1e85a1 TPos2 1e85a1 TPos2 1e85a1 TPos2 1gFq01 Ri3C2 1gFq01 Ri3C2 1gFq01 TPos2 1e85a1 TPos2 1e85a1 TPos2 1gFq01 Ri3C2 1gFq01 Ri3C2 1gFq01 Ri3C2 1gFq01 TPos2 1e85a1 TPos2 1e85a1 TPos2 1gFq01 Ri3C2|",
  "Europe/Moscow|9017|9079,12679,16279,14400,10800,18000,7200|-1QfMQV0 27Wwy1 12Tja0 UaVW2 CNVK1 1vw1q2 aWx13 gCaY4 3d1E43 cjgA5 Xs9W3 aTew4 28kTe6 gukUw4 1KrKjS3 14khi4 13ZFS3 14khi4 13ZFS3 14khi4 14m9q3 140BW4 13YJO3 13YJO4 13YJO3 13YJO4 13YJO3 13YJO4 13YJO3 13YJO4 13YJO3 13YJO4 13YJO3 16w4E4 27YpG6 EBnq4 pmqk3 13YJO4 13YJO3 13YJO4 13YJO3 13YJO4 13YJO3 13YJO4 16w4E3 1e85a4 TPos3 1e85a4 TPos3 1e85a4 TPos3 1gFq04 Ri3C3 1gFq04 Ri3C3 1gFq04 TPos3 1e85a4 TPos3 1e85a4 TPos3 1gFq04 Ri3C3 1gFq04 Ri3C3 1gFq04 Ri3C3 1gFq04 TPos3 1e85a4 TPos3 1e85a4 TPos3 1gFq04 Ri3C3 7EwUM4|",
  "Europe/Paris|561|0,3600,7200|-21BpHX0 bf7Gx1 DvWM0 114Vq1 19pT20 TsUU1 1euyI0 QVA41 1h1Ty0 LQUo1 1tm6c0 PtFS1 1jzeo0 SJXO1 193pu0 1lK5G1 MdnW0 11roY1 16w4E0 13YJO1 13YJO0 193pu1 YU480 16w4E1 11roY0 193pu1 11roY0 193pu1 YU480 16w4E1 11roY0 193pu1 YU480 13YJO1 13YJO0 11roY1 193pu0 13YJO1 13YJO0 11roY1 16w4E0 193pu1 YU480 13YJO1 13YJO0 11roY1 16w4E0 193pu1 1gFq00 zzvW1 Eb9C2 55rri1 Ri3C2 16w4E1 13YJO2 167IY1 11PKE2 YxAA1 13cvu02 13XNK1 16xWM2 11roY1 16w4E2 13YJO1 13YJO2 13YJO1 16w4E2 11roY1 13YJO2 13YJO1 13YJO2 13YJO1 13YJO2 13YJO1 13YJO2 16w4E1 13YJO2 13YJO1 13YJO2 13YJO1 13YJO2 13YJO1 13YJO2 13YJO1 13YJO2 13YJO1 13YJO2 16w4E1 13YJO2 13YJO1 13YJO2 13YJO1 13YJO2 13YJO1 13YJO2 13YJO1 13YJO2 13YJO1|3600,7200,3.5.0/7200,10.5.0/10800",
  "Europe/Prague|3464|3600,7200,0|-2H7mek0 QuJPa1 TtQY0 19rLa1 TPos0 1e85a1 TPos0 K0lMI1 5wAne0 Ri3C1 16w4E0 13YJO1 13YJO0 13YJO1 13YJO0 1gFq01 TsUU0 kjCM2 us240 khKE1 YU480 193pu1 YU480 169B61 11NSw0 10ZugM1 13YJO0 16w4E1 11roY0 13YJO1 13YJO0 13YJO1 13YJO0 13YJO1 13YJO0 13YJO1 16w4E0 13YJO1 13YJO0 13YJO1 13YJO0 13YJO1 13YJO0 13YJO1 13YJO0 13YJO1 13YJO0 13YJO1 16w4E0 13YJO1 13YJO0 13YJO1 13YJO0 13YJO1 13YJO0 13YJO1 13YJO0 13YJO1 13YJO0|3600,7200,3.5.0/7200,10.5.0/10800",
  "Europe/Riga|5794|9394,5794,7200,10800,3600,14400|-1MrJSO0 TPos1 19pT20 iuiY1 eSXw42 up7SW3 1VCkU2 2RkNq4 Ri3C2 16w4E4 13YJO2 13YJO4 3XmU3 1fSrMQ5 14khi3 13ZFS5 14khi3 13ZFS5 14khi3 14m9q5 140BW3 13YJO5 13YJO3 13YJO5 13YJO3 13YJO5 13YJO3 13YJO5 13YJO3 27YpG2 13YJO3 16w4E2 13YJO3 13YJO2 13YJO3 13YJO2 13YJO3 13YJO2 13YJO3 13YJO2 13YJO3 13YJO2 16w4E3 13YJO2 13ZFS3 1e85a2 TPos3 1e85a2 TPos3 1gFq02 2Zfxe3|7200,10800,3.5.0/10800,10.5.0/14400",
  "Europe/Rome|2996|3600,7200|-2CF76E0 MePQc1 H7Mc0 13ZFS1 14khi0 W1bO1 1etCE0 QWw81 1gEtW0 YV0c1 13XNK0 G9sEo1 55qve0 Ri3C1 16w4E0 13YJO1 YxAA0 19pT21 Y9eU0 14n5u1 1bAKk0 WkRa1 1bAKk0 RjVK1 1gFq00 BEDlu1 JF720 1qPHq1 H8Ig0 1qOLm1 H8Ig0 1tm6c1 H8Ig0 1qOLm1 H8Ig0 1ohqw1 JG360 1qOLm1 JG360 1qOLm1 H8Ig0 1ohqw1 JG360 1qOLm1 H8Ig0 1qOLm1 H8Ig0 1ohqw1 JG360 1qOLm1 JG360 1ohqw1 JG360 16xWM1 11roY0 13YJO1 13YJO0 13YJO1 13YJO0 13YJO1 13YJO0 13YJO1 16w4E0 13YJO1 13YJO0 13YJO1 13YJO0 13YJO1 13YJO0 13YJO1 13YJO0 13YJO1 13YJO0 13YJO1 16w4E0 13YJO1 13YJO0 13YJO1 13YJO0 13YJO1 13YJO0 13YJO1 13YJO0 13YJO1 13YJO0|3600,7200,3.5.0/7200,10.5.0/10800",
  "Europe/Samara|12020|10800,14400,18000|-1JRvB60 nqXlK1 1KrKjS2 14khi1 13ZFS2 14khi1 13ZFS2 14khi1 14m9q2 140BW1 13YJO2 13YJO1 13YJO2 13YJO1 13YJO2 13YJO1 13YJO2 13YJO1 27YpG0 13YJO1 16w4E0 2fAqc1 WkRa2 13YJO1 13YJO2 13YJO1 13YJO2 13YJO1 13YJO2 13YJO1 16w4E2 1e85a1 TPos2 1e85a1 TPos2 1e85a1 TPos2 1gFq01 Ri3C2 1gFq01 Ri3C2 1gFq01 TPos2 1e85a1 TPos2 1e85a1 TPos2 1gFq01 Ri3C2 1gFq01 Ri3C2 1gFq01 Ri3C2 1gFq01 TPos2 1e85a1 TPos2 1e85a1 2avKw0 Ri3C1|",
  "Europe/Saratov|11058|10800,14400,18000|-1JRvB60 nqXlK1 1KrKjS2 14khi1 13ZFS2 14khi1 13ZFS2 14khi1 14m9q2 140BW1 13YJO2 13YJO1 13YJO2 13YJO1 13YJO2 13YJO1 27YpG0 13YJO1 13YJO0 13YJO1 16w4E0 13YJO1 3bWdq0 13YJO1 13YJO0 13YJO1 13YJO0 13YJO1 13YJO0 16w4E1 1e85a0 TPos1 1e85a0 TPos1 1e85a0 TPos1 1gFq00 Ri3C1 1gFq00 Ri3C1 1gFq00 TPos1 1e85a0 TPos1 1e85a0 TPos1 1gFq00 Ri3C1 1gFq00 Ri3C1 1gFq00 Ri3C1 1gFq00 TPos1 1e85a0 TPos1 1e85a0 TPos1 1gFq00 Ri3C1 7EwUM0 4v9Uk1|",
  "Europe/Simferopol|8184|8160,7200,10800,3600,14400|-36cYuA0 1wG0TS1 d6qhq2 ogPni1 28KaY3 Ri3C1 16w4E3 13YJO1 3zXi2 1gWNWg4 14khi2 13ZFS4 14khi2 13ZFS4 14khi2 14m9q4 140BW2 13YJO4 13YJO2 13YJO4 13YJO2 13YJO4 13YJO2 13YJO4 13YJO2 13YJO4 13YJO2 1Dvry1 3IWwo2 13YJO1 13YJO2 13YJO1 13YJO2 cDS04 RjVK2 13YJO4 13YJO2 16ucw4 1eaTm2 27YpG1 TPos2 1e85a1 TPos2 1gFq01 Ri3C2 1gFq01 Ri3C2 1gFq01 TPos2 1e85a1 TPos2 1e85a1 TPos2 1gFq01 Ri3C2 1gFq01 Ri3C2 1gFq01 Ri3C2 1gFq01 TPos2 1e85a1 TPos2 1e85a1 TPos2 1gFq01 Ri3C2 1gFq01 Ri3C2 1gFq01 TPos2 1e85a1 TOso4 1e6d22|",
  "Europe/Sofia|5596|7016,7200,3600,10800|-36cXOQ0 vQFBa1 1ElksE2 Ri3C1 16w4E2 13YJO1 13YJO2 13ZFS1 1aBp603 14m9q1 168F23 11OOA1 168F23 11th61 16ucw3 11uda1 13YJO3 13YJO1 13YJO3 16w4E1 13YJO3 13YJO1 13YJO3 13YJO1 13YJO3 13YJO1 13YJO3 13YJO1 13YJO3 13YJO1 13YJO3 16w4E1 13WRG3 13XNK1 13ZFS3 13XNK1 13ZFS3 13XNK1 13ZFS3 13XNK1 13ZFS3 13XNK1 16x0I3 1e7961|7200,10800,3.5.0/10800,10.5.0/14400",
  "Europe/Tallinn|5940|3600,7200,5940,10800,14400|-1MSeAk0 qvgU1 TPos0 1GnnO2 3USHG1 F95pG3 2mO521 2pMzK0 Ri3C1 16w4E0 13YJO1 10ja83 1g04Jq4 14khi3 13ZFS4 14khi3 13ZFS4 14khi3 14m9q4 140BW3 13YJO4 13YJO3 13YJO4 13YJO3 13YJO4 13YJO3 13YJO4 13YJO3 27YpG1 13YJO3 16w4E1 13YJO3 13YJO1 13YJO3 13YJO1 13YJO3 13YJO1 13YJO3 13YJO1 13YJO3 13YJO1 16w4E3 1e85a1 TPos3 1e85a1 TPos3 1e91e1 TPos3 1gFq01 59KlG3|7200,10800,3.5.0/10800,10.5.0/14400",
  "Europe/Tirane|4760|3600,7200|-1VB7lu0 Uv5yM1 5541G0 Ri3C1 4lIA0 14lxXq1 SJ1K0 1evuM1 TOso0 1ferS1 TOso0 1gGm41 Rh7y0 1gjSw1 RDB60 1gjSw1 RDB60 1gjSw1 TOso0 1bY9W1 TOso0 1gGm41 TOso0 19qP61 YaaY0 14m9q1 140BW0 13YJO1 13YJO0 13YJO1 13YJO0 13YJO1 13YJO0 13YJO1 13YJO0 13YJO1 13YJO0 13YJO1 16w4E0 13YJO1 13YJO0 13YJO1 13YJO0 13YJO1 13YJO0 13YJO1 13YJO0 13YJO1 13YJO0|3600,7200,3.5.0/7200,10.5.0/10800",
  "Europe/Ulyanovsk|11616|10800,14400,18000,7200|-1JRvB60 nqXlK1 1KrKjS2 14khi1 13ZFS2 14khi1 13ZFS2 14khi1 14m9q2 140BW1 13YJO2 13YJO1 13YJO2 13YJO1 13YJO2 13YJO1 13YJO2 13YJO1 27YpG0 13YJO1 16w4E0 27YpG3 EBnq0 pmqk1 13YJO0 13YJO1 13YJO0 13YJO1 13YJO0 13YJO1 13YJO0 16w4E1 1e85a0 TPos1 1e85a0 TPos1 1e85a0 TPos1 1gFq00 Ri3C1 1gFq00 Ri3C1 1gFq00 TPos1 1e85a0 TPos1 1e85a0 TPos1 1gFq00 Ri3C1 1gFq00 Ri3C1 1gFq00 Ri3C1 1gFq00 TPos1 1e85a0 TPos1 1e85a0 TPos1 1gFq00 Ri3C1 7EwUM0 31NO81|",
  "Europe/Vienna|3921|3600,7200|-2DUHbb0 Ni4M11 TtQY0 19rLa1 TPos0 1e85a1 TPos0 3jydW1 WmJi0 FKqPu1 5wAne0 Ri3C1 16w4E0 13YJO1 13YJO0 13YJO1 3CLu0 292Ug1 11NSw0 13Cgg1 13YJO0 193pu1 YU480 15hUGI1 11qsU0 141y01 13YJO0 13YJO1 13YJO0 13YJO1 13YJO0 13YJO1 16w4E0 13YJO1 13YJO0 13YJO1 13YJO0 13YJO1 13YJO0 13YJO1 13YJO0 13YJO1 13YJO0 13YJO1 16w4E0 13YJO1 13YJO0 13YJO1 13YJO0 13YJO1 13YJO0 13YJO1 13YJO0 13YJO1 13YJO0|3600,7200,3.5.0/7200,10.5.0/10800",
  "Europe/Vilnius|6076|5040,5736,3600,7200,10800,14400|-36cXWA0 1h1aRC1 5US7K2 1C45O3 wftK2 GjYti4 1TN163 2TS8g2 Ri3C3 16w4E2 13YJO3 HsnC4 1giVvW5 14khi4 13ZFS5 14khi4 13ZFS5 14khi4 14m9q5 140BW4 13YJO5 13YJO4 13YJO5 13YJO4 13YJO5 13YJO4 13YJO5 13YJO4 27YpG3 13YJO4 16w4E3 13YJO4 13YJO3 13YJO4 13YJO3 13YJO4 13YJO3 13YJO4 13YJO3 13YJO4 13YJO3 16w4E4 1e85a3 TPos4 1e85a3 27YpG2 TPos3 8ynfi4|7200,10800,3.5.0/10800,10.5.0/14400",
  "Europe/Volgograd|10660|10800,14400,18000|-1IM7J20 mlztG1 1KrKjS2 14khi1 13ZFS2 14khi1 13ZFS2 14khi1 14m9q2 140BW1 13YJO2 13YJO1 13YJO2 13YJO1 13YJO2 13YJO1 27YpG0 13YJO1 13YJO0 13YJO1 16w4E0 13YJO1 3bWdq0 13YJO1 13YJO0 13YJO1 13YJO0 13YJO1 13YJO0 16w4E1 1e85a0 TPos1 1e85a0 TPos1 1e85a0 TPos1 1gFq00 Ri3C1 1gFq00 Ri3C1 1gFq00 TPos1 1e85a0 TPos1 1e85a0 TPos1 1gFq00 Ri3C1 1gFq00 Ri3C1 1gFq00 Ri3C1 1gFq00 TPos1 1e85a0 TPos1 1e85a0 TPos1 1gFq00 Ri3C1 7EwUM0 8yobm1 4CK2I0|",
  "Europe/Warsaw|5040|3600,7200,10800|-1Scuwo0 1zS7e1 TtQY0 19rLa1 TPos0 1e85a1 28j162 TPos1 5Mvte0 CzCQU1 52uOI0 Ri3C1 16w4E0 13YJO1 14GKQ0 1d1Is1 15pHW0 Xt601 11PKE0 1dLBC1 TPos0 193pu1 YU480 16w4E1 11roY0 gn3vq1 H8Ig0 13YJO1 13YJO0 1qOLm1 JG360 13YJO1 13YJO0 1ohqw1 JG360 1ohqw1 JG360 1ohqw1 JG360 1qOLm1 H8Ig0 qJ6tG1 11roY0 16w4E1 13YJO0 13YJO1 13YJO0 16w4E1 11roY0 13YJO1 13YJO0 13YJO1 13YJO0 13YJO1 13YJO0 13YJO1 16w4E0 13YJO1 13YJO0 13YJO1 13YJO0 13YJO1 13YJO0 13ZFS1 13YJO0 13YJO1 13YJO0 13YJO1 16w4E0 13YJO1 13YJO0 13YJO1 13YJO0 13YJO1 13YJO0 13YJO1 13YJO0 13YJO1 13YJO0|3600,7200,3.5.0/7200,10.5.0/10800",
  "Europe/Zurich|2048|1786,3600,7200|-40IL6M0 1pivvE1 1CdkGC2 TPos1 1e85a2 TPos1 1kbjmE2 13YJO1 13YJO2 13YJO1 13YJO2 13YJO1 13YJO2 16w4E1 13YJO2 13YJO1 13YJO2 13YJO1 13YJO2 13YJO1 13YJO2 13YJO1 13YJO2 13YJO1 13YJO2 16w4E1 13YJO2 13YJO1 13YJO2 13YJO1 13YJO2 13YJO1 13YJO2 13YJO1 13YJO2 13YJO1|3600,7200,3.5.0/7200,10.5.0/10800"]

end JobQueue.ZoneTable
