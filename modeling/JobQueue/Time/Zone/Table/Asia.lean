/-!
# Zone table: Asia

Recorded offset histories, one zone per entry, in the format read by `ZoneTable.parseLine`.
-/

namespace JobQueue.ZoneTable

/-- Zones of Asia. -/
def asia : List String := [
  "Asia/Almaty|18468|18000,21600,25200|-1zx0gY0 d6q9u1 1KrKjS2 14khi1 13ZFS2 14khi1 13ZFS2 14khi1 14m9q2 140BW1 13YJO2 13YJO1 13YJO2 13YJO1 13YJO2 13YJO1 13YJO2 13YJO1 13YJO2 13YJO1 13YJO2 16w4E1 27YpG0 EBnq1 pmqk2 13YJO1 13YJO2 13YJO1 13YJO2 13YJO1 13YJO2 13YJO1 16w4E2 1e85a1 TPos2 1e85a1 TPos2 1e85a1 TPos2 1gFq01 Ri3C2 1gFq01 Ri3C2 1gFq01 TPos2 1e85a1 TPos2 1e85a1 TPos2 1gFq01 FhLj20|",
  "Asia/Amman|8624|7200,10800|-1liddS0 1sC42k1 GoP60 1eRYk1 TrYQ0 1eRYk1 TrYQ0 1ferS1 14GKQ0 13Dck1 TrYQ0 1evuM1 TrYQ0 dT0Pu1 14khi0 1556w1 13XNK0 13ZFS1 13XNK0 13ZFS1 16v8A0 1ferS1 SJ1K0 1bBGo1 WlNe0 18los1 X4Kk0 194ly1 11qsU0 13ZFS1 13XNK0 13ZFS1 YT840 1bBGo1 WmJi0 1bAKk1 YU480 193pu1 YU480 193pu1 YU480 1FGiQ1 uOvC0 169B61 14ldm0 13Cgg1 14ldm0 13YJO1 13YJO0 13YJO1 1e85a0 TPos1 1bAKk0 YU481 13YJO0 13YJO1 1e85a0 TPos1 1e85a0 TPos1 1gFq00 Ri3C1 1gFq00 Ri3C1 1gFq00 TPos1 1e85a0 TPos1 3Gnjq0 zxDO1 1gFq00 Ri3C1 1gFq00 TPos1 1e85a0 TPos1 1e85a0 TPos1 1e85a0 TPos1 1e85a0 TPos1 1gFq00 Ri3C1 1gFq00 H8Ig1|",
  "Asia/Anadyr|42596|43200,46800,50400,39600|-1zx6y80 d6pSc1 1KrKjS2 14khi1 28kTe0 13ZFS1 14khi0 14m9q1 140BW0 13YJO1 13YJO0 13YJO1 13YJO0 13YJO1 13YJO0 13YJO1 13YJO0 13YJO1 13YJO0 13YJO1 16w4E0 27YpG3 EBnq0 pmqk1 13YJO0 13YJO1 13YJO0 13YJO1 13YJO0 13YJO1 13YJO0 16w4E1 1e85a0 TPos1 1e85a0 TPos1 1e85a0 TPos1 1gFq00 Ri3C1 1gFq00 Ri3C1 1gFq00 TPos1 1e85a0 TPos1 1e85a0 TPos1 1gFq00 Ri3C1 1gFq00 Ri3C1 1gFq00 Ri3C1 1gFq00 TPos1 1e85a0 TPos1 1e85a0 2avKw3 Ri3C0|",
  "Asia/Aqtau|12064|14400,18000,21600|-1zwYBG0 d6pqg1 1Lw5xe2 28j161 13ZFS2 14khi1 14m9q2 140BW1 13YJO2 13YJO1 13YJO2 13YJO1 13YJO2 13YJO1 13YJO2 13YJO1 13YJO2 13YJO1 13YJO2 16w4E1 27YpG0 EBnq1 pmqk2 13YJO1 13YJO2 13YJO1 13YJO2 13YJO0 13ZFS1 13YJO0 16w4E1 1e85a0 TPos1 1e85a0 TPos1 1e85a0 TPos1 1gFq00 Ri3C1 1gFq00 Ri3C1 1gFq00 TPos1 1e85a0 TPos1 1e85a0 TPos1|",
  "Asia/Aqtobe|13720|14400,18000,21600|-1zwZ2o0 d6pQY1 1KrKjS2 3cEes1 13ZFS2 14khi1 14m9q2 140BW1 13YJO2 13YJO1 13YJO2 13YJO1 13YJO2 13YJO1 13YJO2 13YJO1 13YJO2 13YJO1 13YJO2 16w4E1 27YpG0 EBnq1 pmqk2 13YJO1 13YJO2 13YJO1 13YJO2 13YJO1 13YJO2 13YJO1 16w4E2 1e85a1 TPos2 1e85a1 TPos2 1e85a1 TPos2 1gFq01 Ri3C2 1gFq01 Ri3C2 1gFq01 TPos2 1e85a1 TPos2 1e85a1 TPos2 1gFq01|",
  "Asia/Ashgabat|14012|14400,18000,21600|-1zwZ760 d6pVG1 1KrKjS2 14khi1 13ZFS2 14khi1 13ZFS2 14khi1 14m9q2 140BW1 13YJO2 13YJO1 13YJO2 13YJO1 13YJO2 13YJO1 13YJO2 13YJO1 13YJO2 13YJO1 13YJO2 16w4E1 27YpG0 EBnq1|",
  "Asia/Atyrau|12464|10800,18000,21600,14400|-1zwYI80 d6qsM1 1Lw4Ba2 28j161 13ZFS2 14khi1 14m9q2 140BW1 13YJO2 13YJO1 13YJO2 13YJO1 13YJO2 13YJO1 13YJO2 13YJO1 13YJO2 13YJO1 13YJO2 16w4E1 27YpG3 EBnq1 pmqk2 13YJO1 13YJO2 13YJO1 13YJO2 13YJO1 13YJO2 13YJO1 16w4E2 1e85a1 TPos2 1e85a1 TPos2 1e85a1 2avKw3 Ri3C1 1gFq03 Ri3C1 1gFq03 TPos1 1e85a3 TPos1 1e85a3 TPos1|",
  "Asia/Baghdad|10660|10656,10800,14400|-2KQGag0 XNbzS1 2dnTQA2 TrYQ1 13Dck2 14GKQ1 14m9q2 14khi1 13ZFS2 13Dck1 13YJO2 13YJO1 13YJO2 13YJO1 13YJO2 13YJO1 13YJO2 13YJO1 13YJO2 16w4E1 14n5u2 14ldm1 14ldm2 14ldm1 13YJO2 14ldm1 13YJO2 14ldm1 13YJO2 14ldm1 14ldm2 14ldm1 13YJO2 14ldm1 13YJO2 14ldm1 13YJO2 14ldm1 14ldm2 14ldm1 13YJO2 14ldm1 13YJO2 14ldm1 13YJO2 14ldm1 14ldm2 14ldm1 13YJO2 14ldm1 13YJO2 14ldm1 13YJO2 14ldm1|",
  "Asia/Baku|11964|10800,14400,18000|-1zwYA40 18733u1 Pr7B62 14khi1 13ZFS2 14khi1 13ZFS2 14khi1 14m9q2 140BW1 13YJO2 13YJO1 13YJO2 13YJO1 13YJO2 13YJO1 13YJO2 13YJO1 13YJO2 13YJO1 13YJO2 16w4E1 27YpG0 13YJO1 8yp7q2 1e85a1 TOso2 1e85a1 TPos2 1e85a1 TPos2 1gFq01 Ri3C2 1gFq01 Ri3C2 1gFq01 TPos2 1e85a1 TPos2 1e85a1 TPos2 1gFq01 Ri3C2 1gFq01 Ri3C2 1gFq01 Ri3C2 1gFq01 TPos2 1e85a1 TPos2 1e85a1 TPos2 1gFq01 Ri3C2 1gFq01 Ri3C2 1gFq01 TPos2 1e85a1 TPos2 1e85a1 TPos2 1e85a1|",
  "Asia/Bangkok|24124|25200|-1IfUOo0|",
  "Asia/Barnaul|20100|21600,25200,28800|-1IURCs0 mugyU1 1KrKjS2 14khi1 13ZFS2 14khi1 13ZFS2 14khi1 14m9q2 140BW1 13YJO2 13YJO1 13YJO2 13YJO1 13YJO2 13YJO1 13YJO2 13YJO1 13YJO2 13YJO1 13YJO2 16w4E1 27YpG0 EBnq1 pmqk2 13YJO1 13YJO2 13YJO1 13YJO2 13YJO1 13YJO2 mNdm1 Hcsw0 16w4E1 1e85a0 TPos1 1e85a0 TPos1 1e85a0 TPos1 1gFq00 Ri3C1 1gFq00 Ri3C1 1gFq00 TPos1 1e85a0 TPos1 1e85a0 TPos1 1gFq00 Ri3C1 1gFq00 Ri3C1 1gFq00 Ri3C1 1gFq00 TPos1 1e85a0 TPos1 1e85a0 TPos1 1gFq00 Ri3C1 7EwUM0 31NO81|",
  "Asia/Beirut|8520|7200,10800|-36cYA00 1nVGgo1 1etCE0 W1bO1 14khi0 115Ru1 192tq0 194ly1 Rh7y0 19ObTO1 TrYQ0 1eRYk1 TrYQ0 1eRYk1 TrYQ0 1ferS1 TrYQ0 1eRYk1 TrYQ0 mU1J61 ABck0 1eRYk1 TrYQ0 1eRYk1 TrYQ0 1eRYk1 TrYQ0 1ferS1 TrYQ0 1eRYk1 TrYQ0 1evuM1 TrYQ0 bVzaM1 YT840 19qP61 YT840 19qP61 YT840 19qP61 YT840 1l24E1 NEm40 1cH721 VCQ80 19qP61 YT840 19qP61 YT840 19NiE1 Uxpu0 11sl21 13XNK0 13ZFS1 13XNK0 13ZFS1 13XNK0 16x0I1 13XNK0 13ZFS1 13XNK0 13ZFS1 13XNK0|7200,10800,3.5.0/0,10.5.0/0",
  "Asia/Bishkek|17904|18000,21600,25200|-1zx07S0 d6q0o1 1KrKjS2 14khi1 13ZFS2 14khi1 13ZFS2 14khi1 14m9q2 140BW1 13YJO2 13YJO1 13YJO2 13YJO1 13YJO2 13YJO1 13YJO2 13YJO1 13YJO2 13YJO1 13YJO2 16w4E1 1XrEI0 1jyik1 YT840 194ly1 YT840 194ly1 YT840 194ly1 YT840 194ly1 11qsU0 142121 1e7960 TQkw1 1e7960 TQkw1 1gEtW0 RiZG1 1gEtW0 RiZG1 1gEtW0 TQkw1 1e7960 TQkw1 1e7960 TQkw1 1gEtW0 RiZG1|",
  "Asia/Chita|27232|28800,32400,36000|-1IT55K0 mssa41 1KrKjS2 14khi1 13ZFS2 14khi1 13ZFS2 14khi1 14m9q2 140BW1 13YJO2 13YJO1 13YJO2 13YJO1 13YJO2 13YJO1 13YJO2 13YJO1 13YJO2 13YJO1 13YJO2 16w4E1 27YpG0 EBnq1 pmqk2 13YJO1 13YJO2 13YJO1 13YJO2 13YJO1 13YJO2 13YJO1 16w4E2 1e85a1 TPos2 1e85a1 TPos2 1e85a1 TPos2 1gFq01 Ri3C2 1gFq01 Ri3C2 1gFq01 TPos2 1e85a1 TPos2 1e85a1 TPos2 1gFq01 Ri3C2 1gFq01 Ri3C2 1gFq01 Ri3C2 1gFq01 TPos2 1e85a1 TPos2 1e85a1 TPos2 1gFq01 Ri3C2 7EwUM0 31OKc1|",
  "Asia/Colombo|19164|19172,19800,21600,23400|-36d1lG0 TwxFm1 1eUinO2 1oDr23 6FFbO1 1K4Uik3 TOVq2 kdCvm1|",
  "Asia/Damascus|8712|7200,10800|-1IMQaI0 DbJK1 YT840 194ly1 YT840 194ly1 YT840 194ly1 11qsU0 1klPby1 UaVW0 1eRYk1 T5vi0 1fAVq1 TrYQ0 1eRYk1 T5vi0 1cH721 VZjG0 1eRYk1 TrYQ0 1ferS1 TrYQ0 1eRYk1 TrYQ0 1eRYk1 TrYQ0 1eRYk1 TrYQ0 1ferS1 TrYQ0 1eRYk1 TrYQ0 1eRYk1 TrYQ0 1eRYk1 TrYQ0 1ferS1 TrYQ0 1eRYk1 IzGo0 1pKgM1 IzGo0 9Pq4U1 11qsU0 17fXO1 11qsU0 2WmEU1 1nb3O0 PR5u1 1qrlK0 NjKE1 1lmG40 SKTS1 14GKQ0 13ZFS1 13XNK0 14khi1 14khi0 16Tug1 11MWs0 11OOA1 14khi0 16axa1 14khi0 13ZFS1 14khi0 14m9q1 14khi0 13Dck1 14GKQ0 13gIM1 153eo0 13ZFS1 14khi0 14m9q1 14khi0 13ZFS1 14khi0 13ZFS1 14khi0 13ZFS1 14khi0 14m9q1 14khi0 13ZFS1 14khi0 13ZFS1 113Zm0 16x0I1 1gEtW0 TQkw1 1etCE0 QWw81 1gEtW0 TQkw1 1e7960 TQkw1 1e7960 TQkw1 1e7960 TQkw1 1e7960 TQkw1 1gEtW0 RiZG1 1gEtW0 RiZG1 1gEtW0 TQkw1 1e7960 TQkw1 1e7960 TQkw1 1e7960 TQkw1 1gEtW0 RiZG1 1gEtW0 RiZG1|",
  "Asia/Dhaka|21700|21200,23400,19800,21600,25200|-2KQJ2k0 1MvJCA1 1jV8s2 DwSQ1 jo7qo3 1Zh7pC4 18GVW3|",
  "Asia/Dili|30140|28800,32400|-1ZSdZ60 12nohG1 1b1A5O0 Q3zZm1|",
  "Asia/Dubai|13272|14400|-1IMRmg0|",
  "Asia/Dushanbe|16512|18000,21600,25200|-1zwZLq0 d6pDW1 1KrKjS2 14khi1 13ZFS2 14khi1 13ZFS2 14khi1 14m9q2 140BW1 13YJO2 13YJO1 13YJO2 13YJO1 13YJO2 13YJO1 13YJO2 13YJO1 13YJO2 13YJO1 13YJO2 16w4E1 20ISI0|",
  "Asia/Famagusta|8148|7200,10800|-1ENew40 1Q49ve1 13XNK0 1gjSw1 S04E0 115Ru1 11qsU0 16x0I1 14khi0 13Dck1 13XNK0 16x0I1 11qsU0 13ZFS1 13XNK0 13ZFS1 13XNK0 13ZFS1 13XNK0 13ZFS1 16v8A0 13ZFS1 13XNK0 13ZFS1 13XNK0 13ZFS1 13XNK0 13ZFS1 13XNK0 13ZFS1 13XNK0 13ZFS1 16v8A0 13ZFS1 13XNK0 13ZFS1 13XNK0 13ZFS1 13XNK0 13ZFS1 13XNK0 13ZFS1 13XNK0 16x0I1 13XNK0 13ZFS1 13XNK0 13ZFS1 1eaTm0 TPos1 1gFq00 Ri3C1 1gFq00 Ri3C1 1gFq00 TPos1 1e85a0 TPos1 1e85a0 TPos1 1gFq00 Ri3C1 1gFq00 Ri3C1 1gFq00 Ri3C1 1gFq00 TPos1 1e85a0 TPos1 1e85a0 TPos1 1gFq00 Ri3C1 1gFq00 Ri3C1 1gFq00 TPos1 1e85a0 TPos1 1e85a0 TPos1 1e85a0 TPos1 3oCTC0|7200,10800,3.5.0/10800,10.5.0/14400",
  "Asia/Gaza|8272|7200,10800|-2nTKWk0 1mIiWs1 Ie8U0 h2oM1 4aQhy0 SJXO1 1fzZm0 T6rm1 1fzZm0 Yb721 1a8Q80 Yb721 1a8Q80 mt9Ek1 QbGU0 1eRYk1 TrYQ0 1eSUo1 T7nq0 1fz3i1 T7nq0 1fczK1 T7nq0 1fczK1 T7nq0 1fczK1 T7nq0 1fz3i1 T7nq0 1fczK1 T7nq0 1fczK1 TtQY0 1eQ6c1 cEO40 f8AOQ1 zvLG0 16x0I1 McrS0 awcjC1 fe120 7M9Rm1 EBnq0 1lK5G1 OJMI0 1vUn61 EArm0 1hLMI1 SJ1K0 1e91e1 Rh7y0 1oimA1 JF720 1bBGo1 TOso0 1e91e1 WlNe0 1e91e1 WlNe0 1dq481 Uxpu0 1dq481 S04E0 1fXoY1 Uxpu0 1fXoY1 YU480 193pu1 YU480 193pu1 YU480 1e85a1 13XNK0 16x0I1 13XNK0 13ZFS1 13XNK0 13ZFS1 13XNK0 13ZFS1 13XNK0 13ZFS1 YU480 193pu1 10mUo0 12Sn61 113Zm0 17fXO1 XPzy0 19oWY1 TOso0 1e91e1 WmJi0 1bXeQ1 NEl60 1mtZO1 IdbS0 1pKgM1 11roY0 16w4E1 13XNK0 13ZFS1 1e7960 UcO41 1dLBC0 UcO41 1gEtW0 RiZG1 1gEtW0 RiZG1 1gEtW0 TsUU1 1etCE0 TQkw1 1e85a0 TPos1 1giWs0 S10I1 1gjSw0 13ZFS1 13XNK0 11sl21 16v8A0 YV0c1 192tq0 TQkw1 1e7960 TQkw1 1gEtW0 RiZG1 1gEtW0 RiZG1 1gEtW0 TQkw1 1e7960 TQkw1 1e7960 TQkw1 1gEtW0 RiZG1 1gEtW0 RiZG1 1gEtW0 RiZG1 1gEtW0 TQkw1 1bzOg0 WnFm1 192tq0 YV0c1 13XNK0 13ZFS1 11qsU0 16x0I1 WlNe0 hMhW1 2woM0 TQkw1 Rh7y0 feX61 7B4s0 TQkw1 OJMI0 feX61 a8pi0 TQkw1 JF720 hMhW1 cFK80 TQkw1 H7Mc0 feX61 khKE0 RiZG1 EArm0 feX61 mP5u0 RiZG1 zvLG0 hMhW1 pmqk0 TQkw1 ur600 feX61 ur600 TQkw1 pmqk0 hMhW1 wYqQ0 TQkw1 mP5u0 feX61 EArm0 RiZG1 khKE0 feX61 H7Mc0 RiZG1 fd4Y0 hMhW1 JF720 TQkw1 a8pi0 feX61 OJMI0 TQkw1 53JC0 hMhW1 Rh7y0 TQkw1 2woM0 hMhW1 TOso0 194ly1 11qsU0 13ZFS1 13XNK0 YV0c1 192tq0 WnFm1 1bzOg0 TQkw1 1e7960 TQkw1 1gEtW0 RiZG1 1gEtW0 RiZG1 1gEtW0 RiZG1 1gEtW0 TQkw1 1e7960 TQkw1 1e7960 TQkw1 1gEtW0 RiZG1 1gEtW0 RiZG1 1e7960 WnFm1 192tq0 YV0c1 16v8A0 11sl21 11qsU0 16x0I1 YT840 feX61 2woM0 RiZG1 WlNe0 feX61 53JC0 RiZG1 Rh7y0 hMhW1 7B4s0 TQkw1 McrS0 feX61 cFK80 TQkw1 H7Mc0 hMhW1 fd4Y0 TQkw1 EArm0 hMhW1 khKE0 RiZG1 C36w0 feX61 pmqk0 RiZG1 wYqQ0 hMhW1 rTLa0 TQkw1 rTLa0 feX61 wYqQ0 TQkw1 pmqk0 feX61 zvLG0 TQkw1 khKE0 hMhW1 C36w0 TQkw1 hKpO0 feX61 JF720 RiZG1 cFK80 hMhW1 McrS0 RiZG1 a8pi0 hMhW1 OJMI0 TQkw1 53JC0 feX61|7200,10800,3.4.4/180000,10.4.4/180000",
  "Asia/Hebron|8423|7200,10800|-2nTKYL0 1mIiYT1 Ie8U0 h2oM1 4aQhy0 SJXO1 1fzZm0 T6rm1 1fzZm0 Yb721 1a8Q80 Yb721 1a8Q80 mt9Ek1 QbGU0 1eRYk1 TrYQ0 1eSUo1 T7nq0 1fz3i1 T7nq0 1fczK1 T7nq0 1fczK1 T7nq0 1fczK1 T7nq0 1fz3i1 T7nq0 1fczK1 T7nq0 1fczK1 TtQY0 1eQ6c1 cEO40 f8AOQ1 zvLG0 16x0I1 McrS0 awcjC1 fe120 7M9Rm1 EBnq0 1lK5G1 OJMI0 1vUn61 EArm0 1hLMI1 SJ1K0 1e91e1 Rh7y0 1oimA1 JF720 1bBGo1 TOso0 1e91e1 WlNe0 1e91e1 WlNe0 1dq481 Uxpu0 1dq481 S04E0 1fXoY1 Uxpu0 1fXoY1 YU480 193pu1 YU480 193pu1 YU480 1e85a1 13XNK0 16x0I1 13XNK0 13ZFS1 13XNK0 13ZFS1 13XNK0 13ZFS1 13XNK0 13ZFS1 YU480 193pu1 10mUo0 12Sn61 113Zm0 17fXO1 XPzy0 19oWY1 UTT20 1d3AA1 WmJi0 1bAKk1 O0PC0 1mtZO1 IdbS0 awKY1 bdPW0 13ZFS1 11roY0 16w4E1 13XNK0 13ZFS1 1e7960 UcO41 1dLBC0 UcO41 1gEtW0 RiZG1 1gEtW0 RiZG1 1gEtW0 TsUU1 1etCE0 TQkw1 1e85a0 TPos1 1giWs0 S10I1 1gjSw0 13ZFS1 13XNK0 11sl21 16v8A0 YV0c1 192tq0 TQkw1 1e7960 TQkw1 1gEtW0 RiZG1 1gEtW0 RiZG1 1gEtW0 TQkw1 1e7960 TQkw1 1e7960 TQkw1 1gEtW0 RiZG1 1gEtW0 RiZG1 1gEtW0 RiZG1 1gEtW0 TQkw1 1bzOg0 WnFm1 192tq0 YV0c1 13XNK0 13ZFS1 11qsU0 16x0I1 WlNe0 hMhW1 2woM0 TQkw1 Rh7y0 feX61 7B4s0 TQkw1 OJMI0 feX61 a8pi0 TQkw1 JF720 hMhW1 cFK80 TQkw1 H7Mc0 feX61 khKE0 RiZG1 EArm0 feX61 mP5u0 RiZG1 zvLG0 hMhW1 pmqk0 TQkw1 ur600 feX61 ur600 TQkw1 pmqk0 hMhW1 wYqQ0 TQkw1 mP5u0 feX61 EArm0 RiZG1 khKE0 feX61 H7Mc0 RiZG1 fd4Y0 hMhW1 JF720 TQkw1 a8pi0 feX61 OJMI0 TQkw1 53JC0 hMhW1 Rh7y0 TQkw1 2woM0 hMhW1 TOso0 194ly1 11qsU0 13ZFS1 13XNK0 YV0c1 192tq0 WnFm1 1bzOg0 TQkw1 1e7960 TQkw1 1gEtW0 RiZG1 1gEtW0 RiZG1 1gEtW0 RiZG1 1gEtW0 TQkw1 1e7960 TQkw1 1e7960 TQkw1 1gEtW0 RiZG1 1gEtW0 RiZG1 1e7960 WnFm1 192tq0 YV0c1 16v8A0 11sl21 11qsU0 16x0I1 YT840 feX61 2woM0 RiZG1 WlNe0 feX61 53JC0 RiZG1 Rh7y0 hMhW1 7B4s0 TQkw1 McrS0 feX61 cFK80 TQkw1 H7Mc0 hMhW1 fd4Y0 TQkw1 EArm0 hMhW1 khKE0 RiZG1 C36w0 feX61 pmqk0 RiZG1 wYqQ0 hMhW1 rTLa0 TQkw1 rTLa0 feX61 wYqQ0 TQkw1 pmqk0 feX61 zvLG0 TQkw1 khKE0 hMhW1 C36w0 TQkw1 hKpO0 feX61 JF720 RiZG1 cFK80 hMhW1 McrS0 RiZG1 a8pi0 hMhW1 OJMI0 TQkw1 53JC0 feX61|7200,10800,3.4.4/180000,10.4.4/180000",
  "Asia/Ho_Chi_Minh|25590|25200,28800,32400|-21j1UG0 15DGjY1 4HseQ2 ZZuM0 3mQo01 hChXi0 9Cl321 wZmU00|",
  "Asia/Hong_Kong|27402|28800,32400,30600|-2fbFeg0 1gdxaU1 D9te2 uLeo1 8kg400 TOso1 1jg240 MdnW1 1lK5G0 TPos1 13YJO0 TPos1 1e85a0 TPos1 1e85a0 TPos1 1e85a0 WmJi1 1e85a0 TPos1 1e7960 OLEQ1 1jbOM0 OLEQ1 1lJ9C0 Mek01 1lJ9C0 OLEQ1 1jbOM0 OLEQ1 1jbOM0 OLEQ1 1jbOM0 OLEQ1 1lJ9C0 Mek01 1lJ9C0 Mek01 1lJ9C0 OLEQ1 1jbOM0 OLEQ1 1jbOM0 YV0c1 13XNK0 13ZFS1 13XNK0 13ZFS1 16v8A0 13ZFS1 13XNK0 13ZFS1 13XNK0 13ZFS1 13XNK0 13ZFS1 13XNK0 13ZFS1 16v8A0 13ZFS1 13XNK0 pois1 1Izba0 13ZFS1 13XNK0 13ZFS1 13XNK0 5u3Ys1 WlNe0|",
  "Asia/Hovd|21996|21600,25200,28800|-2dzXkM0 2uFaiM1 bcAcE2 14khi1 14m9q2 13XNK1 13ZFS2 13XNK1 13ZFS2 13XNK1 13ZFS2 13XNK1 13ZFS2 13XNK1 13ZFS2 13XNK1 13ZFS2 16v8A1 13ZFS2 13XNK1 13ZFS2 13XNK1 13ZFS2 13XNK1 13ZFS2 13XNK1 13ZFS2 13XNK1 16x0I2 13XNK1 13ZFS2 13XNK1 13ZFS2 13XNK1 5wgHS2 TOso1 13ZFS2 13XNK1 13ZFS2 13XNK1 13ZFS2 13XNK1 13ZFS2 13XNK1 13ZFS2 16v8A1 i8cPC2 13VVC1 141y02 13VVC1|",
  "Asia/Irkutsk|25025|25200,28800,32400|-1IEcYF0 mdAZ31 1KrKjS2 14khi1 13ZFS2 14khi1 13ZFS2 14khi1 14m9q2 140BW1 13YJO2 13YJO1 13YJO2 13YJO1 13YJO2 13YJO1 13YJO2 13YJO1 13YJO2 13YJO1 13YJO2 16w4E1 27YpG0 EBnq1 pmqk2 13YJO1 13YJO2 13YJO1 13YJO2 13YJO1 13YJO2 13YJO1 16w4E2 1e85a1 TPos2 1e85a1 TPos2 1e85a1 TPos2 1gFq01 Ri3C2 1gFq01 Ri3C2 1gFq01 TPos2 1e85a1 TPos2 1e85a1 TPos2 1gFq01 Ri3C2 1gFq01 Ri3C2 1gFq01 Ri3C2 1gFq01 TPos2 1e85a1 TPos2 1e85a1 TPos2 1gFq01 Ri3C2 7EwUM1|",
  "Asia/Jakarta|25632|26400,27000,32400,28800,25200|-1AfgtO0 iRRWE1 k363K2 7u0CQ1 5yMDC3 4gDri1 tc6484|",
  "Asia/Jayapura|33768|32400,34200|-1hnqs00 pgQac1 FhMI80|",
  "Asia/Jerusalem|8454|8440,7200,10800,14400|-36cYyW0 1j9uyi1 LS20M2 Ie8U1 h2oM2 4aQhy1 SJXO2 1fzZm1 T6rm2 1fzZm1 Yb722 1a8Q81 Yb722 1a8Q81 3khb23 AC8o2 m74s1 13Cgg2 14HGU1 Yb722 T6rm1 19MmA2 1jcKQ1 WmJi2 13YJO1 11roY2 TPos1 1AY6I2 wZmU1 1AY6I2 wZmU1 1yqLS2 H8Ig1 1e85a2 Ri3C1 zQYyA2 zvLG1 16x0I2 McrS1 awcjC2 fe121 7M9Rm2 EBnq1 1lK5G2 OJMI1 1vUn62 EArm1 1hLMI2 SJ1K1 1e91e2 Rh7y1 1oimA2 JF721 1bBGo2 TOso1 1e91e2 WlNe1 1e91e2 WlNe1 1dq482 Uxpu1 1dq482 S04E1 1fXoY2 Uxpu1 18los2 153eo1 15rA42 129q01 15O3C2 ZC5a1 1drWg2 TOso1 1jdGU2 11pwQ1 1556w2 YT841 15rA42 17Aze1 10mUo2 16v8A1 15O3C2 YT841 17gTS2 17e5G1 10JnW2 14GKQ1 13gIM2 ZC5a1 18los2 17e5G1 10JnW2 14GKQ1 13gIM2 ZC5a1 1aSJi2 14GKQ1 13gIM2 129q01|7200,10800,3.4.4/93600,10.5.0/7200",
  "Asia/Kabul|16608|14400,16200|-2KQHIc0 1TsqfC1|",
  "Asia/Kamchatka|38076|39600,43200,46800|-1CGufO0 gfOvW1 1KrKjS2 14khi1 13ZFS2 14khi1 13ZFS2 14khi1 14m9q2 140BW1 13YJO2 13YJO1 13YJO2 13YJO1 13YJO2 13YJO1 13YJO2 13YJO1 13YJO2 13YJO1 13YJO2 16w4E1 27YpG0 EBnq1 pmqk2 13YJO1 13YJO2 13YJO1 13YJO2 13YJO1 13YJO2 13YJO1 16w4E2 1e85a1 TPos2 1e85a1 TPos2 1e85a1 TPos2 1gFq01 Ri3C2 1gFq01 Ri3C2 1gFq01 TPos2 1e85a1 TPos2 1e85a1 TPos2 1gFq01 Ri3C2 1gFq01 Ri3C2 1gFq01 Ri3C2 1gFq01 TPos2 1e85a1 TPos2 1e85a1 2avKw0 Ri3C1|",
  "Asia/Karachi|16092|19800,23400,18000,21600|-2ay8Vu0 1eaBx21 6Fgn60 cIRZm2 1JTkrS3 13XNK2 c4D5u3 TrYQ2 XPzy3 1aunC2|",
  "Asia/Kathmandu|20476|19800,20700|-1IMTes0 2gXpfS1|",
  "Asia/Khandyga|32533|28800,32400,36000,39600|-1IT6tf0 mstxz1 1KrKjS2 14khi1 13ZFS2 14khi1 13ZFS2 14khi1 14m9q2 140BW1 13YJO2 13YJO1 13YJO2 13YJO1 13YJO2 13YJO1 13YJO2 13YJO1 13YJO2 13YJO1 13YJO2 16w4E1 27YpG0 EBnq1 pmqk2 13YJO1 13YJO2 13YJO1 13YJO2 13YJO1 13YJO2 13YJO1 16w4E2 1e85a1 TPos2 1e85a1 TPos2 1e85a1 TPos2 1gFq01 Ri3C2 1gFq01 Ri3C2 1gFq01 TPos2 1e85a1 TPos2 1e85a1 og3C2 vyoM3 1gFq02 Ri3C3 1gFq02 Ri3C3 1gFq02 Ri3C3 1gFq02 TPos3 1e85a2 TPos3 1e85a2 TPos3 1gFq02 Ri3C3 ZAd22 6EXDO1|",
  "Asia/Kolkata|21208|21200,19270,19800,23400|-3YH2Iw0 x84li1 1eSuFk2 1eluEK3 1jULS2 DwSQ3 6Fgn62|",
  "Asia/Krasnoyarsk|22286|21600,25200,28800|-1IL5jU0 mkugm1 1KrKjS2 14khi1 13ZFS2 14khi1 13ZFS2 14khi1 14m9q2 140BW1 13YJO2 13YJO1 13YJO2 13YJO1 13YJO2 13YJO1 13YJO2 13YJO1 13YJO2 13YJO1 13YJO2 16w4E1 27YpG0 EBnq1 pmqk2 13YJO1 13YJO2 13YJO1 13YJO2 13YJO1 13YJO2 13YJO1 16w4E2 1e85a1 TPos2 1e85a1 TPos2 1e85a1 TPos2 1gFq01 Ri3C2 1gFq01 Ri3C2 1gFq01 TPos2 1e85a1 TPos2 1e85a1 TPos2 1gFq01 Ri3C2 1gFq01 Ri3C2 1gFq01 Ri3C2 1gFq01 TPos2 1e85a1 TPos2 1e85a1 TPos2 1gFq01 Ri3C2 7EwUM1|",
  "Asia/Kuching|26480|27000,28800,30000,32400|-1vCRZS0 eBAnu1 5LrrG2 wZ3y1 1BHna2 wZ3y1 1BkTC2 wZ3y1 1BkTC2 wZ3y1 1BkTC2 wZ3y1 1BHna2 wZ3y1 1BkTC2 wZ3y1 ncOs3 7CIx21|",
  "Asia/Macau|27250|28800,32400,36000|-2fbFLk0 1hkmvU1 L71e2 1aQRa1 Xt602 TrYQ1 4h2g00 1eR2g1 TsUU0 1aRNe1 1jzeo0 TPos1 13YJO0 TsUU1 1e85a0 TPos1 1e85a0 TPos1 1euyI0 W0fK1 1e85a0 TPos1 1e85a0 OKIM1 1jcKQ0 OKIM1 1lK5G0 MdnW1 1lNmU0 OLEQ1 1jbOM0 OLEQ1 1jbOM0 OLEQ1 1jbOM0 OLEQ1 1lJ9C0 Mek01 1lJ9C0 Mek01 1lJ9C0 OLEQ1 1jbOM0 OLEQ1 1jbOM0 YV0c1 13WRG0 140BW1 13WRG0 140BW1 16v8A0 13ZFS1 13XNK0 13ZFS1 13XNK0 13ZFS1 13XNK0 13ZFS1 13XNK0 13ZFS1 16v8A0 13ZFS1 13XNK0 pois1 1Izba0 13ZFS1 13XNK0 13ZFS1 13XNK0 5u3Ys1 WlNe0|",
  "Asia/Magadan|36192|36000,39600,43200|-1zx4SQ0 d6q521 1KrKjS2 14khi1 13ZFS2 14khi1 13ZFS2 14khi1 14m9q2 140BW1 13YJO2 13YJO1 13YJO2 13YJO1 13YJO2 13YJO1 13YJO2 13YJO1 13YJO2 13YJO1 13YJO2 16w4E1 27YpG0 EBnq1 pmqk2 13YJO1 13YJO2 13YJO1 13YJO2 13YJO1 13YJO2 13YJO1 16w4E2 1e85a1 TPos2 1e85a1 TPos2 1e85a1 TPos2 1gFq01 Ri3C2 1gFq01 Ri3C2 1gFq01 TPos2 1e85a1 TPos2 1e85a1 TPos2 1gFq01 Ri3C2 1gFq01 Ri3C2 1gFq01 Ri3C2 1gFq01 TPos2 1e85a1 TPos2 1e85a1 TPos2 1gFq01 Ri3C2 7EwUM0 3bY5y1|",
  "Asia/Makassar|28656|28800,32400|-1hnp7y0 jNSa41 7Jf6U0|",
  "Asia/Manila|-57368|29032,28800,32400|-4iXe7S0 1SMbdm1 1hli2Q2 rxhC1 auKpq2 8sccU1 hRaqQ2 jyNy1 MIzRe2 12vTy1 r2kFO2 oZWM1|",
  "Asia/Nicosia|8008|7200,10800|-1ENetO0 1Q49sY1 13XNK0 1gjSw1 S04E0 115Ru1 11qsU0 16x0I1 14khi0 13Dck1 13XNK0 16x0I1 11qsU0 13ZFS1 13XNK0 13ZFS1 13XNK0 13ZFS1 13XNK0 13ZFS1 16v8A0 13ZFS1 13XNK0 13ZFS1 13XNK0 13ZFS1 13XNK0 13ZFS1 13XNK0 13ZFS1 13XNK0 13ZFS1 16v8A0 13ZFS1 13XNK0 13ZFS1 13XNK0 13ZFS1 13XNK0 13ZFS1 13XNK0 13ZFS1 13XNK0 16x0I1 13XNK0 13ZFS1 13XNK0 13ZFS1|7200,10800,3.5.0/10800,10.5.0/14400",
  "Asia/Novokuznetsk|20928|21600,25200,28800|-1zxnoc0 d6MkE1 1KrKjS2 14khi1 13ZFS2 14khi1 13ZFS2 14khi1 14m9q2 140BW1 13YJO2 13YJO1 13YJO2 13YJO1 13YJO2 13YJO1 13YJO2 13YJO1 13YJO2 13YJO1 13YJO2 16w4E1 27YpG0 EBnq1 pmqk2 13YJO1 13YJO2 13YJO1 13YJO2 13YJO1 13YJO2 13YJO1 16w4E2 1e85a1 TPos2 1e85a1 TPos2 1e85a1 TPos2 1gFq01 Ri3C2 1gFq01 Ri3C2 1gFq01 TPos2 1e85a1 TPos2 1e85a1 TPos2 1gFq01 Ri3C2 1gFq01 Ri3C2 1gFq01 Ri3C2 1gFq01 TPos2 1e85a1 TPos2 1e85a1 2avKw0 Ri3C1|",
  "Asia/Novosibirsk|19900|21600,25200,28800|-1ITk2E0 msIZ61 1KrKjS2 14khi1 13ZFS2 14khi1 13ZFS2 14khi1 14m9q2 140BW1 13YJO2 13YJO1 13YJO2 13YJO1 13YJO2 13YJO1 13YJO2 13YJO1 13YJO2 13YJO1 13YJO2 16w4E1 27YpG0 EBnq1 pmqk2 13YJO1 13YJO2 kfSw1 JJNm0 13YJO1 13YJO0 13YJO1 13YJO0 16w4E1 1e85a0 TPos1 1e85a0 TPos1 1e85a0 TPos1 1gFq00 Ri3C1 1gFq00 Ri3C1 1gFq00 TPos1 1e85a0 TPos1 1e85a0 TPos1 1gFq00 Ri3C1 1gFq00 Ri3C1 1gFq00 Ri3C1 1gFq00 TPos1 1e85a0 TPos1 1e85a0 TPos1 1gFq00 Ri3C1 7EwUM0 3IWwo1|",
  "Asia/Omsk|17610|18000,21600,25200|-1J4hmy0 mDHf41 1KrKjS2 14khi1 13ZFS2 14khi1 13ZFS2 14khi1 14m9q2 140BW1 13YJO2 13YJO1 13YJO2 13YJO1 13YJO2 13YJO1 13YJO2 13YJO1 13YJO2 13YJO1 13YJO2 16w4E1 27YpG0 EBnq1 pmqk2 13YJO1 13YJO2 13YJO1 13YJO2 13YJO1 13YJO2 13YJO1 16w4E2 1e85a1 TPos2 1e85a1 TPos2 1e85a1 TPos2 1gFq01 Ri3C2 1gFq01 Ri3C2 1gFq01 TPos2 1e85a1 TPos2 1e85a1 TPos2 1gFq01 Ri3C2 1gFq01 Ri3C2 1gFq01 Ri3C2 1gFq01 TPos2 1e85a1 TPos2 1e85a1 TPos2 1gFq01 Ri3C2 7EwUM1|",
  "Asia/Oral|12324|10800,18000,21600,14400|-1zwYFS0 d6qqw1 1KrJnO2 3cEes1 13ZFS2 14khi1 14m9q2 140BW1 13YJO2 13YJO1 13YJO2 13YJO1 13YJO2 13YJO1 13YJO2 13YJO1 27YpG3 13YJO1 16w4E3 13YJO1 13YJO3 EBnq1 1tm6c3 13YJO1 13YJO3 13YJO1 13YJO3 13YJO1 13YJO3 16w4E1 1e85a3 TPos1 1e85a3 TPos1 1e85a3 TPos1 1gFq03 Ri3C1 1gFq03 Ri3C1 1gFq03 TPos1 1e85a3 TPos1 1e85a3 TPos1|",
  "Asia/Pontianak|26240|27000,32400,28800,25200|-1hnouA0 jJSL61 7NdSU0 5yMDC2 4gDri0 tc6482 PfTi83|",
  "Asia/Pyongyang|30180|30600,32400|-27STgE0 80EOw1 3ziuUM0 5OlJ61|",
  "Asia/Qatar|12368|14400,10800|-1IMR7G0 1NWxJ61|",
  "Asia/Qostanay|15268|14400,18000,21600|-1zwZrm0 d6qfW1 1KrKjS2 3cEes1 13ZFS2 14khi1 14m9q2 140BW1 13YJO2 13YJO1 13YJO2 13YJO1 13YJO2 13YJO1 13YJO2 13YJO1 13YJO2 13YJO1 13YJO2 16w4E1 27YpG0 EBnq1 pmqk2 13YJO1 13YJO2 13YJO1 13YJO2 13YJO1 13YJO2 13YJO1 16w4E2 1e85a1 TPos2 1e85a1 TPos2 1e85a1 TPos2 1gFq01 Ri3C2 1gFq01 Ri3C2 1gFq01 TPos2 1e85a1 TPos2 1e85a1 TPos2 GypMY1|",
  "Asia/Qyzylorda|15712|14400,18000,21600|-1zwZyw0 d6qn61 1KrKjS2 3cEes1 13ZFS2 14khi1 14m9q2 140BW1 13YJO2 13YJO1 13YJO2 13YJO1 13YJO2 13YJO1 13YJO2 13YJO1 13YJO2 13YJO1 13YJO2 16w4E1 2MyR22 1tm6c1 13YJO2 13YJO1 13YJO2 13YJO1 13YJO2 13YJO1 16w4E2 1e85a1 TPos2 1e85a1 TPos2 1e85a1 TPos2 1gFq01 Ri3C2 1gFq01 Ri3C2 1gFq01 TPos2 1e85a1 TPos2 1e85a1 TPos2 vsHHG1|",
  "Asia/Riyadh|11212|10800|-MHwpm0|",
  "Asia/Sakhalin|34248|32400,39600,43200,36000|-2ds22k0 1nremQ1 1e1Tby2 14khi1 13ZFS2 14khi1 13ZFS2 14khi1 14m9q2 140BW1 13YJO2 13YJO1 13YJO2 13YJO1 13YJO2 13YJO1 13YJO2 13YJO1 13YJO2 13YJO1 13YJO2 16w4E1 27YpG3 EBnq1 pmqk2 13YJO1 13YJO2 13YJO1 13YJO2 13YJO1 13YJO2 13YJO1 16w4E2 1e85a1 27YpG3 TPos1 1e85a3 TPos1 1gFq03 Ri3C1 1gFq03 Ri3C1 1gFq03 TPos1 1e85a3 TPos1 1e85a3 TPos1 1gFq03 Ri3C1 1gFq03 Ri3C1 1gFq03 Ri3C1 1gFq03 TPos1 1e85a3 TPos1 1e85a3 TPos1 1gFq03 Ri3C1 7EwUM3 31NO81|",
  "Asia/Samarkand|16073|14400,18000,21600|-1zwZEl0 d6qsV1 1KrKjS2 3cEes1 13ZFS2 14khi1 14m9q2 140BW1 13YJO2 13YJO1 13YJO2 13YJO1 13YJO2 13YJO1 13YJO2 13YJO1 13YJO2 13YJO1 13YJO2 16w4E1 13YJO2 13YJO1|",
  "Asia/Seoul|30472|30600,32400,36000,34200|-27STlm0 80ETe1 1fLWC42 BGCY1 1bfcQ2 WlNe1 1bfcQ2 WIgM1 1oimA2 JF721 5oZiM0 2oDRS3 K1AA0 1u5Zm3 McrS0 1gGm43 OJMI0 1jdGU3 OJMI0 1jdGU3 OJMI0 1jdGU3 OJMI0 1UciQ1 SZde82 TPos1 1e85a2 TPos1|",
  "Asia/Shanghai|29143|28800,32400|-2nmuwv0 D2dMz1 ZYyI0 I8IGQ1 MyVq0 TtQY1 1m5Da0 wDPq1 7ETok0 1ussU1 Onja0 194ly1 1aunC0 13ZFS1 TrYQ0 1eRYk1 9LVK0 1gSvXW1 McrS0 1e91e1 TOso0 1gGm41 Rh7y0 1gGm41 TOso0 1e91e1 TOso0 1e91e1 TOso0|",
  "Asia/Singapore|24925|25200,26400,27000,32400,28800|-2dW5at0 WUO171 ivo5i2 YTUs3 7CI402 1fx6tG4|",
  "Asia/Srednekolymsk|36892|36000,39600,43200|-1zx5480 d6qgk1 1KrKjS2 14khi1 13ZFS2 14khi1 13ZFS2 14khi1 14m9q2 140BW1 13YJO2 13YJO1 13YJO2 13YJO1 13YJO2 13YJO1 13YJO2 13YJO1 13YJO2 13YJO1 13YJO2 16w4E1 27YpG0 EBnq1 pmqk2 13YJO1 13YJO2 13YJO1 13YJO2 13YJO1 13YJO2 13YJO1 16w4E2 1e85a1 TPos2 1e85a1 TPos2 1e85a1 TPos2 1gFq01 Ri3C2 1gFq01 Ri3C2 1gFq01 TPos2 1e85a1 TPos2 1e85a1 TPos2 1gFq01 Ri3C2 1gFq01 Ri3C2 1gFq01 Ri3C2 1gFq01 TPos2 1e85a1 TPos2 1e85a1 TPos2 1gFq01 Ri3C2 7EwUM1|",
  "Asia/Taipei|29160|28800,32400|-2y2sM80 1r9N5C1 h1FOU0 1nytq1 Onja0 194ly1 1aunC0 13ZFS1 TrYQ0 1eRYk1 TrYQ0 1eRYk1 TrYQ0 1eRYk1 TrYQ0 T7nq1 1qNPi0 SKTS1 1fz3i0 SKTS1 1fz3i0 SKTS1 14khi0 14m9q1 14khi0 13ZFS1 14khi0 13ZFS1 14khi0 13ZFS1 14khi0 1qtdS1 IdcQ0 1q6Kk1 IdcQ0 qGWys1 14khi0 13ZFS1 14khi0 80jnO1 xkUo0|",
  "Asia/Tashkent|16631|18000,21600,25200|-1zwZNl0 d6pFR1 1KrKjS2 14khi1 13ZFS2 14khi1 13ZFS2 14khi1 14m9q2 140BW1 13YJO2 13YJO1 13YJO2 13YJO1 13YJO2 13YJO1 13YJO2 13YJO1 13YJO2 13YJO1 13YJO2 16w4E1 27YpG0|",
  "Asia/Tbilisi|10751|10800,14400,18000|-1zwYgv0 1872JV1 Pr7B62 14khi1 13ZFS2 14khi1 13ZFS2 14khi1 14m9q2 140BW1 13YJO2 13YJO1 13YJO2 13YJO1 13YJO2 13YJO1 13YJO2 13YJO1 13YJO2 13YJO1 13YJO2 16w4E1 27YpG0 13WRG1 13XNK0 13ZFS1 13XNK0 13ZFS1 27Wxy2 13XNK1 16x0I2 3m4CI1 TQkw2 1e7961 TQkw2 1gEtW1 RiZG2 1gEtW1 RiZG2 1gEtW1 TQkw2 1e7961 TQkw2 1e7961 TQkw2 wYqQ1 JJNm0 Ri3C1|",
  "Asia/Tehran|12344|12600,16200,14400,18000|-1bNudi0 1rdoL61 1fdvO2 Ucl23 MdnW2 zwHK0 19qm41 FFS00 14ICY1 15pHW0 mErew1 PsJO0 13ZFS1 14GKQ0 13Dck1 14GKQ0 13Dck1 14GKQ0 13Dck1 14GKQ0 13Dck1 14GKQ0 13ZFS1 14GKQ0 13Dck1 14GKQ0 13Dck1 14GKQ0 13Dck1 14GKQ0 13ZFS1 14GKQ0 13Dck1 14GKQ0 13Dck1 14GKQ0 13Dck1 14GKQ0 13ZFS1 14GKQ0 5kh6E1 14GKQ0 13ZFS1 14GKQ0 13Dck1 14GKQ0 13Dck1 14GKQ0 13Dck1 14GKQ0 13ZFS1 14GKQ0 13Dck1 14GKQ0 13Dck1 14GKQ0 13Dck1 14GKQ0 13ZFS1 14GKQ0 13Dck1 14GKQ0 13Dck1 14GKQ0 13Dck1 14GKQ0 13ZFS1 14GKQ0 13Dck1 14GKQ0|",
  "Asia/Thimphu|21516|19800,21600|-LNJH60 1nHxMo1|",
  "Asia/Tokyo|33539|32400,36000|-2P7McM0 24QC4g1 MdnW0 1bAKk1 WmJi0 1ohqw1 JG360 1ohqw1 JG360|",
  "Asia/Tomsk|20391|21600,25200,28800|-1IQvYz0 mpUV11 1KrKjS2 14khi1 13ZFS2 14khi1 13ZFS2 14khi1 14m9q2 140BW1 13YJO2 13YJO1 13YJO2 13YJO1 13YJO2 13YJO1 13YJO2 13YJO1 13YJO2 13YJO1 13YJO2 16w4E1 27YpG0 EBnq1 pmqk2 13YJO1 13YJO2 13YJO1 13YJO2 13YJO1 13YJO2 13YJO1 16w4E2 1e85a1 TPos2 1e85a1 TPos2 1e85a1 TPos2 1gFq01 Ri3C2 1gFq01 Ri3C2 1gFq01 TPos2 beM01 12Ufe0 TPos1 1e85a0 TPos1 1gFq00 Ri3C1 1gFq00 Ri3C1 1gFq00 Ri3C1 1gFq00 TPos1 1e85a0 TPos1 1e85a0 TPos1 1gFq00 Ri3C1 7EwUM0 3oDPG1|",
  "Asia/Ulaanbaatar|25652|25200,28800,32400|-2dzYhK0 2uFajG1 bcAcE2 14khi1 14m9q2 13XNK1 13ZFS2 13XNK1 13ZFS2 13XNK1 13ZFS2 13XNK1 13ZFS2 13XNK1 13ZFS2 13XNK1 13ZFS2 16v8A1 13ZFS2 13XNK1 13ZFS2 13XNK1 13ZFS2 13XNK1 13ZFS2 13XNK1 13ZFS2 13XNK1 16x0I2 13XNK1 13ZFS2 13XNK1 13ZFS2 13XNK1 5wgHS2 TOso1 13ZFS2 13XNK1 13ZFS2 13XNK1 13ZFS2 13XNK1 13ZFS2 13XNK1 13ZFS2 16v8A1 i8cPC2 13VVC1 141y02 13VVC1|",
  "Asia/Urumqi|21020|21600|-1rHAMQ0|",
  "Asia/Ust-Nera|34374|28800,32400,43200,39600,36000|-1IT6WW0 msu1g1 1KrKjS2 14ipa3 13ZFS2 14khi3 13ZFS2 14khi3 14m9q2 140BW3 13YJO2 13YJO3 13YJO2 13YJO3 13YJO2 13YJO3 13YJO2 13YJO3 13YJO2 13YJO3 13YJO2 16w4E3 27YpG4 EBnq3 pmqk2 13YJO3 13YJO2 13YJO3 13YJO2 13YJO3 13YJO2 13YJO3 16w4E2 1e85a3 TPos2 1e85a3 TPos2 1e85a3 TPos2 1gFq03 Ri3C2 1gFq03 Ri3C2 1gFq03 TPos2 1e85a3 TPos2 1e85a3 TPos2 1gFq03 Ri3C2 1gFq03 Ri3C2 1gFq03 Ri3C2 1gFq03 TPos2 1e85a3 TPos2 1e85a3 TPos2 1gFq03 Ri3C2 ZAd23 6EXDO4|",
  "Asia/Vladivostok|31651|32400,36000,39600|-1CEEcr0 ge0kH1 1KrKjS2 14khi1 13ZFS2 14khi1 13ZFS2 14khi1 14m9q2 140BW1 13YJO2 13YJO1 13YJO2 13YJO1 13YJO2 13YJO1 13YJO2 13YJO1 13YJO2 13YJO1 13YJO2 16w4E1 27YpG0 EBnq1 pmqk2 13YJO1 13YJO2 13YJO1 13YJO2 13YJO1 13YJO2 13YJO1 16w4E2 1e85a1 TPos2 1e85a1 TPos2 1e85a1 TPos2 1gFq01 Ri3C2 1gFq01 Ri3C2 1gFq01 TPos2 1e85a1 TPos2 1e85a1 TPos2 1gFq01 Ri3C2 1gFq01 Ri3C2 1gFq01 Ri3C2 1gFq01 TPos2 1e85a1 TPos2 1e85a1 TPos2 1gFq01 Ri3C2 7EwUM1|",
  "Asia/Yakutsk|31138|28800,32400,36000|-1IT66K0 mstb41 1KrKjS2 14khi1 13ZFS2 14khi1 13ZFS2 14khi1 14m9q2 140BW1 13YJO2 13YJO1 13YJO2 13YJO1 13YJO2 13YJO1 13YJO2 13YJO1 13YJO2 13YJO1 13YJO2 16w4E1 27YpG0 EBnq1 pmqk2 13YJO1 13YJO2 13YJO1 13YJO2 13YJO1 13YJO2 13YJO1 16w4E2 1e85a1 TPos2 1e85a1 TPos2 1e85a1 TPos2 1gFq01 Ri3C2 1gFq01 Ri3C2 1gFq01 TPos2 1e85a1 TPos2 1e85a1 TPos2 1gFq01 Ri3C2 1gFq01 Ri3C2 1gFq01 Ri3C2 1gFq01 TPos2 1e85a1 TPos2 1e85a1 TPos2 1gFq01 Ri3C2 7EwUM1|",
  "Asia/Yangon|23087|23400,32400|-1IMTUz0 LGKXB1 6q0WY0|",
  "Asia/Yekaterinburg|14553|13505,14400,18000,21600|-1QfOid0 6tnBe1 nlRvz2 1KrKjS3 14khi2 13ZFS3 14khi2 13ZFS3 14khi2 14m9q3 140BW2 13YJO3 13YJO2 13YJO3 13YJO2 13YJO3 13YJO2 13YJO3 13YJO2 13YJO3 13YJO2 13YJO3 16w4E2 27YpG1 EBnq2 pmqk3 13YJO2 13YJO3 13YJO2 13YJO3 13YJO2 13YJO3 13YJO2 16w4E3 1e85a2 TPos3 1e85a2 TPos3 1e85a2 TPos3 1gFq02 Ri3C3 1gFq02 Ri3C3 1gFq02 TPos3 1e85a2 TPos3 1e85a2 TPos3 1gFq02 Ri3C3 1gFq02 Ri3C3 1gFq02 Ri3C3 1gFq02 TPos3 1e85a2 TPos3 1e85a2 TPos3 1gFq02 Ri3C3 7EwUM2|",
  "Asia/Yerevan|10680|10800,14400,18000|-1zwYfm0 1872IM1 Pr7B62 14khi1 13ZFS2 14khi1 13ZFS2 14khi1 14m9q2 140BW1 13YJO2 13YJO1 13YJO2 13YJO1 13YJO2 13YJO1 13YJO2 13YJO1 13YJO2 13YJO1 13YJO2 16w4E1 27YpG0 13YJO1 13YJO0 13YJO1 13YJO0 13YJO1 13YJO0 13YJO1 4irm02 1e85a1 TPos2 1e85a1 TPos2 1gFq01 Ri3C2 1gFq01 Ri3C2 1gFq01 TPos2 1e85a1 TPos2 1e85a1 TPos2 1gFq01 Ri3C2 1gFq01 Ri3C2 1gFq01 Ri3C2 1gFq01 TPos2 1e85a1 TPos2 1e85a1 TPos2 1gFq01 Ri3C2 1gFq01|"]

end JobQueue.ZoneTable
