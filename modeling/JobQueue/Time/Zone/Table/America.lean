/-!
# Zone table: the Americas

Recorded offset histories, one zone per entry, in the format read by `ZoneTable.parseLine`.
-/

namespace JobQueue.ZoneTable

/-- Zones of the Americas. -/
def america : List String := [
  "America/Adak|44002|-42398,-39600,-36000,-32400|-3wgI1x0 1887ud1 1qznfc2 7LMrK1 OlmlG2 13XNK1 13ZFS2 13XNK1 13ZFS2 16v8A1 13ZFS2 13XNK1 13ZFS2 13XNK1 pois2 1Izba1 H9Ek2 1qNPi1 13ZFS2 16v8A1 11sl22 16v8A1 13ZFS2 13XNK1 13ZFS2 13XNK1 13ZFS2 13XNK1 13ZFS2 13XNK1 13ZFS2 16v8A1 11sl22 2atSo3 13XNK2 13ZFS3 13XNK2 13ZFS3 13XNK2 WnFm3 1bzOg2 WnFm3 1e7962 TQkw3 1e7962 TQkw3 1e7962 WnFm3 1bzOg2 WnFm3 1bzOg2 WnFm3 1e7962 TQkw3 1e7962 TQkw3 1e7962 WnFm3 1bzOg2 WnFm3 1bzOg2 WnFm3 1bzOg2 WnFm3 1e7962 TQkw3 1e7962 TQkw3 1e7962 WnFm3 1bzOg2 WnFm3 1bzOg2 WnFm3 1e7962 TQkw3 1e7962 TQkw3 1e7962|-36000,-32400,3.2.0/7200,11.1.0/7200",
  "America/Anchorage|50424|-35976,-36000,-32400,-28800|-3wgI1x0 1885OD1 1qznYI2 7LMrK1 OlmlG2 13XNK1 13ZFS2 13XNK1 13ZFS2 16v8A1 13ZFS2 13XNK1 13ZFS2 13XNK1 pois2 1Izba1 H9Ek2 1qNPi1 13ZFS2 16v8A1 11sl22 16v8A1 13ZFS2 13XNK1 13ZFS2 13XNK1 13ZFS2 13XNK1 13ZFS2 13XNK1 13ZFS2 16v8A1 11sl22 2atSo3 13XNK2 13ZFS3 13XNK2 13ZFS3 13XNK2 WnFm3 1bzOg2 WnFm3 1e7962 TQkw3 1e7962 TQkw3 1e7962 WnFm3 1bzOg2 WnFm3 1bzOg2 WnFm3 1e7962 TQkw3 1e7962 TQkw3 1e7962 WnFm3 1bzOg2 WnFm3 1bzOg2 WnFm3 1bzOg2 WnFm3 1e7962 TQkw3 1e7962 TQkw3 1e7962 WnFm3 1bzOg2 WnFm3 1bzOg2 WnFm3 1e7962 TQkw3 1e7962 TQkw3 1e7962|-32400,-28800,3.2.0/7200,11.1.0/7200",
  "America/Araguaina|-11568|-10800,-7200|-1VB3680 BUMi41 13r1u0 1556w1 13eQE0 zB4oE1 NiOA0 1l18A1 HQJi0 1qtdS1 IdcQ0 1qtdS1 wBXi0 n0yiY1 u4Cs0 1XP4k1 lnbi0 1qPHq1 wBXi0 1qPHq1 HufK0 1qPHq1 HQJi0 BK7iU1 McrS0 1jdGU1 EArm0 1tJvO1 C36w0 1tn2g1 C36w0 1vUn61 H7Mc0 c7aqk1 H7Mc0 1oimA1 McrS0 1m7vi1 QUE00 1jdGU1 McrS0 1jdGU1 Rh7y0 1jdGU1 McrS0 1oimA1 JF720 1vUn61 C36w0 kFxFC1 H7Mc0|",
  "America/Argentina/Buenos_Aires|-14028|-15408,-14400,-10800,-7200|-2Ax52I0 SscOo1 mBwdO2 HQJi1 19qP62 O0PC1 1qPHq2 HufK1 1qPHq2 HufK1 1qPHq2 HufK1 1qPHq2 HQJi1 1qPHq2 HufK1 1qPHq2 HufK1 1qPHq2 HufK1 1qPHq2 HQJi1 If4Y2 22vok1 If4Y2 3Pre81 rcGc2 54EJW1 1fAVq2 AiUbS1 rcGc2 rTLa1 1kFB62 NEm41 1kFB62 NEm41 1kFB62 ZfBC1 13ZFS2 16v8A1 13ZFS2 13XNK1 13ZFS2 9bvMs3 zvLG2 v9ybS3 y3Ru2 1jdGU3 OJMI2 1lL1K3 McrS2 1lL1K3 McrS2 1lL1K3 OJMI2 vDDKo3 rTLa2 1gGm43 Rh7y2|",
  "America/Argentina/Catamarca|-15788|-15408,-14400,-10800,-7200|-2Ax4Ak0 Sscm01 mBwdO2 HQJi1 19qP62 O0PC1 1qPHq2 HufK1 1qPHq2 HufK1 1qPHq2 HufK1 1qPHq2 HQJi1 1qPHq2 HufK1 1qPHq2 HufK1 1qPHq2 HufK1 1qPHq2 HQJi1 If4Y2 22vok1 If4Y2 3Pre81 rcGc2 54EJW1 1fAVq2 AiUbS1 rcGc2 rTLa1 1kFB62 NEm41 1kFB62 NEm41 1kFB62 ZfBC1 13ZFS2 16v8A1 13ZFS2 13XNK1 13ZFS2 9bvMs3 zvLG2 v9ybS3 y3Ru2 1jdGU3 OJMI2 1lL1K3 McrS1 1lLXO3 MbvO2 1lL1K3 OJMI2 nZOQE1 6TZu2 7wUUg3 rTLa2|",
  "America/Argentina/Cordoba|-15408|-14400,-10800,-7200|-1I4Sek0 mBwdO1 HQJi0 19qP61 O0PC0 1qPHq1 HufK0 1qPHq1 HufK0 1qPHq1 HufK0 1qPHq1 HQJi0 1qPHq1 HufK0 1qPHq1 HufK0 1qPHq1 HufK0 1qPHq1 HQJi0 If4Y1 22vok0 If4Y1 3Pre80 rcGc1 54EJW0 1fAVq1 AiUbS0 rcGc1 rTLa0 1kFB61 NEm40 1kFB61 NEm40 1kFB61 ZfBC0 13ZFS1 16v8A0 13ZFS1 13XNK0 13ZFS1 9bvMs2 zvLG1 v9ybS2 y3Ru1 1jdGU2 OJMI1 1lL1K2 McrS0 1lLXO2 MbvO1 1lL1K2 OJMI1 vDDKo2 rTLa1 1gGm42 Rh7y1|",
  "America/Argentina/Jujuy|-15672|-15408,-14400,-10800,-7200|-2Ax4Cc0 SscnS1 mBwdO2 HQJi1 19qP62 O0PC1 1qPHq2 HufK1 1qPHq2 HufK1 1qPHq2 HufK1 1qPHq2 HQJi1 1qPHq2 HufK1 1qPHq2 HufK1 1qPHq2 HufK1 1qPHq2 HQJi1 If4Y2 22vok1 If4Y2 3Pre81 rcGc2 54EJW1 1fAVq2 AiUbS1 rcGc2 rTLa1 1kFB62 NEm41 1kFB62 NEm41 1kFB62 ZfBC1 13ZFS2 16v8A1 13ZFS2 13XNK1 13ZFS2 9bvMs3 zvLG2 v9ybS3 y3Ru2 1jdGU3 OJMI1 1ojiE2 OJMI1 1bBGo3 Rgbu2 1lL1K3 OJMI2 vDDKo3 rTLa2|",
  "America/Argentina/La_Rioja|-16044|-15408,-14400,-10800,-7200|-2Ax4wc0 SschS1 mBwdO2 HQJi1 19qP62 O0PC1 1qPHq2 HufK1 1qPHq2 HufK1 1qPHq2 HufK1 1qPHq2 HQJi1 1qPHq2 HufK1 1qPHq2 HufK1 1qPHq2 HufK1 1qPHq2 HQJi1 If4Y2 22vok1 If4Y2 3Pre81 rcGc2 54EJW1 1fAVq2 AiUbS1 rcGc2 rTLa1 1kFB62 NEm41 1kFB62 NEm41 1kFB62 ZfBC1 13ZFS2 16v8A1 13ZFS2 13XNK1 13ZFS2 9bvMs3 zvLG2 v9ybS3 y3Ru2 1jdGU3 OJMI2 1lL1K3 LtuM1 ojNS2 YaaY3 McrS2 1lL1K3 OJMI2 nZOQE1 6TZu2 7wUUg3 rTLa2|",
  "America/Argentina/Mendoza|-16516|-15408,-14400,-10800,-7200|-2Ax4oA0 Sscag1 mBwdO2 HQJi1 19qP62 O0PC1 1qPHq2 HufK1 1qPHq2 HufK1 1qPHq2 HufK1 1qPHq2 HQJi1 1qPHq2 HufK1 1qPHq2 HufK1 1qPHq2 HufK1 1qPHq2 HQJi1 If4Y2 22vok1 If4Y2 3Pre81 rcGc2 54EJW1 1fAVq2 AiUbS1 rcGc2 rTLa1 1kFB62 NEm41 1kFB62 NEm41 1kFB62 ZfBC1 13ZFS2 16v8A1 13ZFS2 13XNK1 13ZFS2 9bvMs3 zvLG2 v9ybS3 y3Ru2 1jdGU3 OJMI1 1jB6w2 NEm41 1kFB62 O0PC1 1lL1K3 OIQE2 nWyyI1 JGZa2 6Xocw3 rTLa2|",
  "America/Argentina/Rio_Gallegos|-16612|-15408,-14400,-10800,-7200|-2Ax4n20 Ssc8I1 mBwdO2 HQJi1 19qP62 O0PC1 1qPHq2 HufK1 1qPHq2 HufK1 1qPHq2 HufK1 1qPHq2 HQJi1 1qPHq2 HufK1 1qPHq2 HufK1 1qPHq2 HufK1 1qPHq2 HQJi1 If4Y2 22vok1 If4Y2 3Pre81 rcGc2 54EJW1 1fAVq2 AiUbS1 rcGc2 rTLa1 1kFB62 NEm41 1kFB62 NEm41 1kFB62 ZfBC1 13ZFS2 16v8A1 13ZFS2 13XNK1 13ZFS2 9bvMs3 zvLG2 v9ybS3 y3Ru2 1jdGU3 OJMI2 1lL1K3 McrS2 1lL1K3 McrS2 1lL1K3 OJMI2 nZOQE1 6TZu2 7wUUg3 rTLa2|",
  "America/Argentina/Salta|-15700|-15408,-14400,-10800,-7200|-2Ax4BK0 Sscnq1 mBwdO2 HQJi1 19qP62 O0PC1 1qPHq2 HufK1 1qPHq2 HufK1 1qPHq2 HufK1 1qPHq2 HQJi1 1qPHq2 HufK1 1qPHq2 HufK1 1qPHq2 HufK1 1qPHq2 HQJi1 If4Y2 22vok1 If4Y2 3Pre81 rcGc2 54EJW1 1fAVq2 AiUbS1 rcGc2 rTLa1 1kFB62 NEm41 1kFB62 NEm41 1kFB62 ZfBC1 13ZFS2 16v8A1 13ZFS2 13XNK1 13ZFS2 9bvMs3 zvLG2 v9ybS3 y3Ru2 1jdGU3 OJMI2 1lL1K3 McrS1 1lLXO3 MbvO2 1lL1K3 OJMI2 vDDKo3 rTLa2|",
  "America/Argentina/San_Juan|-16444|-15408,-14400,-10800,-7200|-2Ax4pK0 Sscbq1 mBwdO2 HQJi1 19qP62 O0PC1 1qPHq2 HufK1 1qPHq2 HufK1 1qPHq2 HufK1 1qPHq2 HQJi1 1qPHq2 HufK1 1qPHq2 HufK1 1qPHq2 HufK1 1qPHq2 HQJi1 If4Y2 22vok1 If4Y2 3Pre81 rcGc2 54EJW1 1fAVq2 AiUbS1 rcGc2 rTLa1 1kFB62 NEm41 1kFB62 NEm41 1kFB62 ZfBC1 13ZFS2 16v8A1 13ZFS2 13XNK1 13ZFS2 9bvMs3 zvLG2 v9ybS3 y3Ru2 1jdGU3 OJMI2 1lL1K3 LtuM1 ojNS2 YaaY3 McrS2 1lL1K3 OJMI2 nZsn61 jX9e2 7kee43 rTLa2|",
  "America/Argentina/San_Luis|-15924|-15408,-14400,-10800,-7200|-2Ax4y80 SscjO1 mBwdO2 HQJi1 19qP62 O0PC1 1qPHq2 HufK1 1qPHq2 HufK1 1qPHq2 HufK1 1qPHq2 HQJi1 1qPHq2 HufK1 1qPHq2 HufK1 1qPHq2 HufK1 1qPHq2 HQJi1 If4Y2 22vok1 If4Y2 3Pre81 rcGc2 54EJW1 1fAVq2 AiUbS1 rcGc2 rTLa1 1kFB62 NEm41 1kFB62 NEm41 1kFB62 ZfBC1 13ZFS2 16v8A1 13ZFS2 13XNK1 13ZFS2 9bvMs3 zvLG2 v9ybS3 y3Ru2 1jdGU3 Smyc1 1fYl22 NEm41 xmMw2 rLfTG1 jX9e2 7kee43 7Xy02 hpOo1 1gGm42 Rh7y1 1gGm42|",
  "America/Argentina/Tucuman|-15652|-15408,-14400,-10800,-7200|-2Ax4Cw0 Sscoc1 mBwdO2 HQJi1 19qP62 O0PC1 1qPHq2 HufK1 1qPHq2 HufK1 1qPHq2 HufK1 1qPHq2 HQJi1 1qPHq2 HufK1 1qPHq2 HufK1 1qPHq2 HufK1 1qPHq2 HQJi1 If4Y2 22vok1 If4Y2 3Pre81 rcGc2 54EJW1 1fAVq2 AiUbS1 rcGc2 rTLa1 1kFB62 NEm41 1kFB62 NEm41 1kFB62 ZfBC1 13ZFS2 16v8A1 13ZFS2 13XNK1 13ZFS2 9bvMs3 zvLG2 v9ybS3 y3Ru2 1jdGU3 OJMI2 1lL1K3 McrS1 1lLXO3 MbvO2 1lL1K3 OJMI2 nZOQE1 4mEE2 7zsf63 rTLa2 1gGm43 Rh7y2|",
  "America/Argentina/Ushuaia|-16392|-15408,-14400,-10800,-7200|-2Ax4qA0 Ssccg1 mBwdO2 HQJi1 19qP62 O0PC1 1qPHq2 HufK1 1qPHq2 HufK1 1qPHq2 HufK1 1qPHq2 HQJi1 1qPHq2 HufK1 1qPHq2 HufK1 1qPHq2 HufK1 1qPHq2 HQJi1 If4Y2 22vok1 If4Y2 3Pre81 rcGc2 54EJW1 1fAVq2 AiUbS1 rcGc2 rTLa1 1kFB62 NEm41 1kFB62 NEm41 1kFB62 ZfBC1 13ZFS2 16v8A1 13ZFS2 13XNK1 13ZFS2 9bvMs3 zvLG2 v9ybS3 y3Ru2 1jdGU3 OJMI2 1lL1K3 McrS2 1lL1K3 McrS2 1lL1K3 OJMI2 nZ5Ty1 7CWA2 7wUUg3 rTLa2|",
  "America/Asuncion|-13840|-14400,-10800|-1jDSYU0 1pvVdK1 3chKU0 3cG6A1 T5vi0 1fAVq1 SJ1K0 1fAVq1 SJ1K0 1fAVq1 13XNK0 14m9q1 14khi0 14m9q1 13XNK0 14m9q1 13XNK0 14m9q1 13XNK0 14m9q1 14khi0 14m9q1 13XNK0 14m9q1 13XNK0 14m9q1 13XNK0 14m9q1 14khi0 14m9q1 13XNK0 1bY9W1 WlNe0 14m9q1 13XNK0 16axa1 Rh7y0 1h2PC1 129q00 14ICY1 S04E0 1gjSw1 RDB60 1gGm41 T5vi0 1hpja1 OJMI0 1jdGU1 Rh7y0 1gGm41 TOso0 1e91e1 TOso0 1e91e1 TOso0 1gGm41 13XNK0 RiZG1 1gEtW0 TQkw1 1e7960 194ly1 Rh7y0 1gGm41 Rh7y0 1gGm41 Rh7y0 1jdGU1 OJMI0 1jdGU1 OJMI0 1jdGU1 11qsU0 11sl21 16v8A0 11sl21 16v8A0 13ZFS1 YT840 194ly1 YT840 194ly1 YT840 194ly1 11qsU0 16x0I1 11qsU0 16x0I1 11qsU0 194ly1 YT840 194ly1 YT840 194ly1 11qsU0 16x0I1 11qsU0 16x0I1 11qsU0 16x0I1 11qsU0 194ly1|",
  "America/Bahia|-9244|-10800,-7200|-1VB3HC0 BUMTy1 13r1u0 1556w1 13eQE0 zB4oE1 NiOA0 1l18A1 HQJi0 1qtdS1 IdcQ0 1qtdS1 wBXi0 n0yiY1 u4Cs0 1XP4k1 lnbi0 1qPHq1 wBXi0 1qPHq1 HufK0 1qPHq1 HQJi0 BK7iU1 McrS0 1jdGU1 EArm0 1tJvO1 C36w0 1tn2g1 C36w0 1vUn61 H7Mc0 1tn2g1 H7Mc0 1qPHq1 EArm0 1vUn61 zvLG0 1vUn61 JF720 1oimA1 JF720 1oimA1 H7Mc0 1oimA1 McrS0 1m7vi1 QUE00 1jdGU1 McrS0 1jdGU1 Rh7y0 1jdGU1 McrS0 1oimA1 JF720 1vUn61 C36w0 iv2Ra1 McrS0|",
  "America/Bahia_Banderas|-25260|-25200,-21600,-18000|-1EvGXS0 bBYv61 7kAHC0 Yc361 TOso0 14m9q1 lugwg0 1RekUg1 1bzOg0 WnFm1 1bzOg0 WnFm1 1bzOg0 WnFm1 1e7960 TQkw1 1e7960 16x0I1 Rh7y0 16x0I1 1bzOg0 WnFm1 1bzOg0 WnFm1 1e7960 TQkw1 1e7960 TQkw1 1e7960 TQkw1 1e7960 WnFm1 1bzOg0 WnFm1 1bzOg0 WnFm2 1e6d21 TQkw2 1e7961 TQkw2 1e7961 WnFm2 1bzOg1 WnFm2 1bzOg1 WnFm2 1bzOg1 WnFm2 1e7961 TQkw2 1e7961 TQkw2 1e7961 WnFm2 1bzOg1 WnFm2 1bzOg1 WnFm2 1e7961 TQkw2 1e7961|",
  "America/Barbados|-14309|-14400,-10800,-12600|-20BIOT0 13roV51 MANy0 1qrlK1 JGZa0 1h0Xu2 TtQY0 17WTpm1 EArm0 194ly1 YT840 194ly1 YT840 1bBGo1 VgmA0|",
  "America/Belem|-11636|-10800,-7200|-1VB3520 BUMgY1 13r1u0 1556w1 13eQE0 zB4oE1 NiOA0 1l18A1 HQJi0 1qtdS1 IdcQ0 1qtdS1 wBXi0 n0yiY1 u4Cs0 1XP4k1 lnbi0 1qPHq1 wBXi0 1qPHq1 HufK0 1qPHq1 HQJi0 BK7iU1 McrS0 1jdGU1 EArm0 1tJvO1 C36w0|",
  "America/Belize|-21168|-21600,-19800,-18000|-1Zl1Cg0 dUrUA1 JFA40 1ohTy1 McUU0 1lKyI1 McUU0 1lKyI1 McUU0 1ohTy1 JFA40 1ohTy1 JFA40 1ohTy1 McUU0 1lKyI1 McUU0 1lKyI1 McUU0 1lKyI1 McUU0 1ohTy1 JFA40 1ohTy1 JFA40 1ohTy1 McUU0 1lKyI1 McUU0 1lKyI1 McUU0 1ohTy1 JFA40 1ohTy1 JFA40 1ohTy1 JFA40 1ohTy1 McUU0 1lKyI1 McUU0 1lKyI1 McUU0 1ohTy1 JFA40 1ohTy1 JFA40 1ohTy1 McUU0 MdQY2 7piTK0 3QywU1 McUU0 1lKyI1 McUU0 1lKyI1 McUU0 1ohTy1 JFA40 1ohTy1 JFA40 1ohTy1 McUU0 1lKyI1 McUU0 1lKyI1 McUU0 1lKyI1 McUU0 1ohTy1 JFA40 1ohTy1 JFA40 1ohTy1 McUU0 1lKyI1 McUU0 1lKyI1 McUU0 1ohTy1 JFA40 1ohTy1 JFA40 1ohTy1 JFA40 1ohTy1 McUU0 1lKyI1 McUU0 1lKyI1 McUU0 1ohTy1 JFA40 cq0JO2 nUw80 iUqdy2 khKE0|",
  "America/Boa_Vista|-14560|-14400,-10800|-1VB2jS0 BUMrS1 13r1u0 1556w1 13eQE0 zB4oE1 NiOA0 1l18A1 HQJi0 1qtdS1 IdcQ0 1qtdS1 wBXi0 n0yiY1 u4Cs0 1XP4k1 lnbi0 1qPHq1 wBXi0 1qPHq1 HufK0 1qPHq1 HQJi0 BK7iU1 McrS0 1jdGU1 EArm0 1tJvO1 C36w0 oSVi01 Rh7y0 1jdGU1 2woM0|",
  "America/Bogota|-17776|-18000,-14400|-1TGQ7e0 2FooNi1 1Duvu0|",
  "America/Boise|-27889|-28800,-25200,-21600|-2XUWje0 1bnUha1 1e7960 TQkw1 1e7960 7zu7e1 E2cfK2 7LMrK1 K5ros2 13XNK1 13ZFS2 13XNK1 13ZFS2 13XNK1 13ZFS2 13XNK1 13ZFS2 16v8A1 13ZFS2 13XNK1 13ZFS2 13XNK1 zxDO2 1ypPO1 H9Ek2 1qNPi1 13ZFS2 16v8A1 11sl22 16v8A1 13ZFS2 13XNK1 13ZFS2 13XNK1 13ZFS2 13XNK1 13ZFS2 13XNK1 13ZFS2 16v8A1 11sl22 16v8A1 13ZFS2 13XNK1 13ZFS2 13XNK1 13ZFS2 13XNK1 WnFm2 1bzOg1 WnFm2 1e7961 TQkw2 1e7961 TQkw2 1e7961 WnFm2 1bzOg1 WnFm2 1bzOg1 WnFm2 1e7961 TQkw2 1e7961 TQkw2 1e7961 WnFm2 1bzOg1 WnFm2 1bzOg1 WnFm2 1bzOg1 WnFm2 1e7961 TQkw2 1e7961 TQkw2 1e7961 WnFm2 1bzOg1 WnFm2 1bzOg1 WnFm2 1e7961 TQkw2 1e7961 TQkw2 1e7961|-25200,-21600,3.2.0/7200,11.1.0/7200",
  "America/Cambridge_Bay|0|-25200,-21600,-18000|-1IMNUc0 LdwRO1 7LMrK0 ULM7m1 13XNK0 13ZFS1 13XNK0 13ZFS1 13XNK0 13ZFS1 13XNK0 13ZFS1 16v8A0 11sl21 16v8A0 13ZFS1 13XNK0 13ZFS1 13XNK0 13ZFS1 13XNK0 13ZFS1 13XNK0 13ZFS1 16v8A0 11sl21 16v8A0 13ZFS1 13XNK0 13ZFS1 13XNK0 13ZFS1 13XNK0 WnFm1 1bzOg0 WnFm1 1e7960 TQkw1 1e7960 TQkw1 1e7960 WnFm1 1bzOg0 WnFm1 1bzOg0 WnFm1 1e7960 TQkw1 1e7960 TQkw1 1e7960 WnFm1 1bzOg0 WnFm1 1bzOg0 WnFm1 1bzOg0 WnFm1 27Wxy2 1gCBO1 25sWY0 WnFm1 1bzOg0 WnFm1 1bzOg0 WnFm1 1e7960 TQkw1 1e7960 TQkw1 1e7960|-25200,-21600,3.2.0/7200,11.1.0/7200",
  "America/Campo_Grande|-13108|-14400,-10800|-1VB2Hi0 BUMPi1 13r1u0 1556w1 13eQE0 zB4oE1 NiOA0 1l18A1 HQJi0 1qtdS1 IdcQ0 1qtdS1 wBXi0 n0yiY1 u4Cs0 1XP4k1 lnbi0 1qPHq1 wBXi0 1qPHq1 HufK0 1qPHq1 HQJi0 BK7iU1 McrS0 1jdGU1 EArm0 1tJvO1 C36w0 1tn2g1 C36w0 1vUn61 H7Mc0 1tn2g1 H7Mc0 1qPHq1 EArm0 1vUn61 zvLG0 1vUn61 JF720 1oimA1 JF720 1oimA1 H7Mc0 1oimA1 McrS0 1m7vi1 QUE00 1jdGU1 McrS0 1jdGU1 Rh7y0 1jdGU1 McrS0 1oimA1 JF720 1vUn61 C36w0 1qPHq1 H7Mc0 1wDkc1 DRug0 1oimA1 JF720 1vUn61 EArm0 1lL1K1 JF720 1qPHq1 H7Mc0 1qPHq1 JF720 1oimA1 JF720 1oimA1 McrS0 1oimA1 H7Mc0 1qPHq1 H7Mc0 1qPHq1 JF720 1oimA1 JF720 1oimA1 JF720 1oimA1 JF720 1vUn61 C36w0|",
  "America/Cancun|-20824|-21600,-18000,-14400|-1EvHTW0 246BpK1 2bxqU0 sjoru1 1bzOg0 WnFm1 27Wxy2 H7Mc1 usY80 WnFm1 1e7960 TQkw1 1e7960 16x0I1 Rh7y0 16x0I1 1bzOg0 WnFm1 1bzOg0 WnFm1 1e7960 TQkw1 1e7960 TQkw1 1e7960 TQkw1 1e7960 WnFm1 1bzOg0 WnFm1 1bzOg0 WnFm1 1e7960 TQkw1 1e7960 TQkw1 1e7960 WnFm1 1bzOg0 WnFm1 1bzOg0 zxDO1|",
  "America/Caracas|-16064|-16060,-16200,-14400|-2KQzde0 LdKUI1 1OWUgs2 1tHaaY1 hVvdm2|",
  "America/Cayenne|-12560|-14400,-10800|-20WKUU0 1W8sqQ1|",
  "America/Chicago|-21036|-21600,-18000|-2XUYbm0 1bnUha1 1e7960 TQkw1 1e7960 1lL1K1 OJMI0 RiZG1 1gEtW0 13ZFS1 Rh7y0 1gGm41 TOso0 1e91e1 TOso0 1e91e1 TOso0 1e91e1 TOso0 1e91e1 TOso0 1gGm41 TOso0 1e91e1 TOso0 1e91e1 TOso0 1e91e1 TOso0 1e91e1 TOso0 1gGm41 Rh7y0 1gGm41 TOso0 1e91e1 TOso0 TQkw1 1vSuY0 WnFm1 TOso0 1e91e1 TOso0 1gGm41 Rh7y0 1gGm41 TOso0 1e91e1 TOso0 MANy1 7LMrK0 1e91e1 TOso0 1e91e1 TOso0 1e91e1 TOso0 1e91e1 TOso0 1gGm41 Rh7y0 1gGm41 TOso0 1e91e1 TOso0 1e91e1 TOso0 1e91e1 TOso0 1e91e1 16v8A0 13ZFS1 13XNK0 13ZFS1 13XNK0 13ZFS1 13XNK0 13ZFS1 13XNK0 13ZFS1 16v8A0 13ZFS1 13XNK0 13ZFS1 13XNK0 13ZFS1 13XNK0 13ZFS1 13XNK0 13ZFS1 16v8A0 11sl21 16v8A0 13ZFS1 13XNK0 13ZFS1 13XNK0 13ZFS1 13XNK0 13ZFS1 13XNK0 13ZFS1 16v8A0 13ZFS1 13XNK0 13ZFS1 13XNK0 pois1 1Izba0 H9Ek1 1qNPi0 13ZFS1 16v8A0 11sl21 16v8A0 13ZFS1 13XNK0 13ZFS1 13XNK0 13ZFS1 13XNK0 13ZFS1 13XNK0 13ZFS1 16v8A0 11sl21 16v8A0 13ZFS1 13XNK0 13ZFS1 13XNK0 13ZFS1 13XNK0 WnFm1 1bzOg0 WnFm1 1e7960 TQkw1 1e7960 TQkw1 1e7960 WnFm1 1bzOg0 WnFm1 1bzOg0 WnFm1 1e7960 TQkw1 1e7960 TQkw1 1e7960 WnFm1 1bzOg0 WnFm1 1bzOg0 WnFm1 1bzOg0 WnFm1 1e7960 TQkw1 1e7960 TQkw1 1e7960 WnFm1 1bzOg0 WnFm1 1bzOg0 WnFm1 1e7960 TQkw1 1e7960 TQkw1 1e7960|-21600,-18000,3.2.0/7200,11.1.0/7200",
  "America/Chihuahua|-25460|-25200,-21600,-18000|-1EvGXS0 bBYv61 7kAHC0 Yc361 TOso0 14m9q1 2cIAus2 1bzOg1 WnFm2 1bzOg1 27YpG0 WnFm1 1e7960 TQkw1 1e7960 16x0I1 Rh7y0 16x0I1 1bzOg0 WnFm1 1bzOg0 WnFm1 1e7960 TQkw1 1e7960 TQkw1 1e7960 TQkw1 1e7960 WnFm1 1bzOg0 WnFm1 1bzOg0 WnFm1 1e7960 TQkw1 1e7960 TQkw1 1e7960 WnFm1 1bzOg0 WnFm1 1bzOg0 WnFm1 1bzOg0 WnFm1 1e7960 TQkw1 1e7960 TQkw1 1e7960 WnFm1 1bzOg0 WnFm1 1bzOg0 WnFm1 1e7960 TQkw1|",
  "America/Ciudad_Juarez|-25556|-25200,-21600,-18000|-1EvGXS0 bBYv61 7kAHC0 Yc361 TOso0 14m9q1 2cIAus2 1bzOg1 WnFm2 1bzOg1 27YpG0 WnFm1 1e7960 TQkw1 1e7960 16x0I1 Rh7y0 16x0I1 1bzOg0 WnFm1 1bzOg0 WnFm1 1e7960 TQkw1 1e7960 TQkw1 1e7960 TQkw1 1e7960 WnFm1 1bzOg0 WnFm1 1bzOg0 OLEQ1 1ogus0 JGZa1 1ogus0 JGZa1 1ogus0 JGZa1 1ogus0 JGZa1 1ogus0 JGZa1 1ogus0 Mek01 1ogus0 JGZa1 1ogus0 JGZa1 1ogus0 JGZa1 1ogus0 JGZa1 1ogus0 Mek01 1ogus0 JGZa1 1wW3u0|-25200,-21600,3.2.0/7200,11.1.0/7200",
  "America/Costa_Rica|-20173|-21600,-18000|-1GyXyr0 206BVx1 zvLG0 1yrHW1 zvLG0 mI4001 X4Kk0 1aSJi1 kEec0|",
  "America/Coyhaique|-17296|-16965,-18000,-14400,-10800|-2KQyTm0 GL9c11 dP0V50 4Gntz2 1IzrR0 hrMNL2 1fcQr1 TtQY2 1eQ6c1 TtQY2 1eQ6c1 TtQY2 1eQ6c1 TtQY2 1fczK1 TtQY2 kOzIc1 m80w2 9XJao1 iuiY2 JOKxa3 Rh7y2 1oimA3 JF722 194ly3 TOso2 1e91e3 TOso2 1gGm43 Rh7y2 1bBGo3 WlNe2 1gGm43 Rh7y2 1gGm43 TOso2 1e91e3 TOso2 1e91e3 TOso2 1gGm43 Rh7y2 1gGm43 Rh7y2 1gGm43 TOso2 1e91e3 TOso2 1e91e3 TOso2 1e91e3 TOso2 1gGm43 Rh7y2 1gGm43 Rh7y2 1gGm43 13XNK2 13ZFS3 TOso2 1e91e3 TOso2 1gGm43 Rh7y2 16x0I3 11qsU2 1gGm43 TOso2 1e91e3 TOso2 1e91e3 TOso2 1e91e3 TOso2 1gGm43 Rh7y2 1gGm43 YT842 194ly3 TOso2 194ly3 16v8A2 16x0I3 TOso2 1gGm43 Rh7y2 1gGm43 Rh7y2 1gGm43 Rh7y2 1gGm43 TOso2 1e91e3 TOso2 1e91e3 TOso2 1gGm43 Rh7y2 1gGm43 YT842 194ly3 TOso2 1e91e3 11qsU2 16x0I3 1e7962 C4YE3 1tla82 JGZa3 1ogus2 Mek03 1lJ9C2 Mek03 3BiDK2 x0iY3 1AXaE2 x0iY3 1AXaE2 x0iY3 1ogus2 TQkw3 1e7962 TQkw3 1e7962 TQkw3 1e7962 WnFm3 1bzOg2 TQkw3 1gEtW2 TQkw3|",
  "America/Cuiaba|-13460|-14400,-10800|-1VB2BC0 BUMJC1 13r1u0 1556w1 13eQE0 zB4oE1 NiOA0 1l18A1 HQJi0 1qtdS1 IdcQ0 1qtdS1 wBXi0 n0yiY1 u4Cs0 1XP4k1 lnbi0 1qPHq1 wBXi0 1qPHq1 HufK0 1qPHq1 HQJi0 BK7iU1 McrS0 1jdGU1 EArm0 1tJvO1 C36w0 1tn2g1 C36w0 1vUn61 H7Mc0 1tn2g1 H7Mc0 1qPHq1 EArm0 1vUn61 zvLG0 1vUn61 JF720 1oimA1 JF720 1oimA1 H7Mc0 1oimA1 McrS0 1m7vi1 QUE00 1jdGU1 McrS0 1jdGU1 Rh7y0 1jdGU1 McrS0 1oimA1 JF720 1vUn61 C36w0 3EANO1 DRug0 1oimA1 JF720 1vUn61 EArm0 1lL1K1 JF720 1qPHq1 H7Mc0 1qPHq1 JF720 1oimA1 JF720 1oimA1 McrS0 1oimA1 H7Mc0 1qPHq1 H7Mc0 1qPHq1 JF720 1oimA1 JF720 1oimA1 JF720 1oimA1 JF720 1vUn61 C36w0|",
  "America/Danmarkshavn|-4480|-10800,-7200,0|-1Q6Fqw0 2c1umc1 11nEI0 13YJO1 13YJO0 13YJO1 13YJO0 13YJO1 13YJO0 13YJO1 16w4E0 13YJO1 13YJO0 13YJO1 13YJO0 13YJO1 13YJO0 13YJO1 13YJO0 13YJO1 13YJO0 13YJO1 16w4E0 13YJO1 13YJO0 13YJO1 13YJO0 13YJO1 13YJO0 13YJO1 13YJO0 13YJO1 13YJO0 zV3q2|",
  "America/Dawson|-33460|-32400,-28800,-25200|-2o8O6g0 BGRFW1 192tq0 1e91e1 VXry0 LzyjS1 7LMrK0 FMXeg2 16w4E0 h4d9K1 dShSo2 13XNK1 13ZFS2 13XNK1 13ZFS2 16v8A1 11sl22 16v8A1 13ZFS2 13XNK1 13ZFS2 13XNK1 13ZFS2 13XNK1 WnFm2 1bzOg1 WnFm2 1e7961 TQkw2 1e7961 TQkw2 1e7961 WnFm2 1bzOg1 WnFm2 1bzOg1 WnFm2 1e7961 TQkw2 1e7961 TQkw2 1e7961 WnFm2 1bzOg1 WnFm2 1bzOg1 WnFm2 1bzOg1 WnFm2 1e7961 TQkw2 1e7961 TQkw2 1e7961 WnFm2 1bzOg1 WnFm2 1bzOg1 WnFm2 1e7961 TQkw2 1e7961 TQkw2 1e7961 Mek02 1ogus1 JGZa2 1ogus1 JGZa2 1ogus1 Mek02 1ogus1 JGZa2 1ogus1 JGZa2 1ogus1 JGZa2 1ogus1 JGZa2 1ogus1 JGZa2 1ogus1 Mek02 1ogus1 JGZa2 1ogus1 JGZa2 1ogus1 JGZa2 1ogus1 JGZa2|",
  "America/Dawson_Creek|-28856|-28800,-25200|-2XFayY0 1bddcA1 192tq0 NJEME1 7LMrK0 3m6uQ1 TOso0 1e91e1 TOso0 1e91e1 TOso0 1gGm41 Rh7y0 1gGm41 TOso0 1e91e1 TOso0 1e91e1 TOso0 1e91e1 TOso0 1e91e1 TOso0 1gGm41 TOso0 1e91e1 TOso0 1e91e1 TOso0 1e91e1 TOso0 1e91e1 TOso0 1gGm41 Rh7y0 1gGm41 13XNK0 13ZFS1 13XNK0 13ZFS1 13XNK0 13ZFS1 16v8A0 11sl21 16v8A0 13ZFS1 13XNK0 13ZFS1 13XNK0 13ZFS1 13XNK0 13ZFS1 13XNK0 13ZFS1 16v8A0 13ZFS1|",
  "America/Denver|-25196|-25200,-21600|-2XUXfi0 1bnUha1 1e7960 TQkw1 1e7960 TQkw1 1gEtW0 RiZG1 khKE0 IfBKg1 7LMrK0 FMZ6o1 16v8A0 11sl21 16v8A0 13ZFS1 13XNK0 13ZFS1 13XNK0 13ZFS1 13XNK0 13ZFS1 13XNK0 13ZFS1 16v8A0 13ZFS1 13XNK0 13ZFS1 13XNK0 pois1 1Izba0 H9Ek1 1qNPi0 13ZFS1 16v8A0 11sl21 16v8A0 13ZFS1 13XNK0 13ZFS1 13XNK0 13ZFS1 13XNK0 13ZFS1 13XNK0 13ZFS1 16v8A0 11sl21 16v8A0 13ZFS1 13XNK0 13ZFS1 13XNK0 13ZFS1 13XNK0 WnFm1 1bzOg0 WnFm1 1e7960 TQkw1 1e7960 TQkw1 1e7960 WnFm1 1bzOg0 WnFm1 1bzOg0 WnFm1 1e7960 TQkw1 1e7960 TQkw1 1e7960 WnFm1 1bzOg0 WnFm1 1bzOg0 WnFm1 1bzOg0 WnFm1 1e7960 TQkw1 1e7960 TQkw1 1e7960 WnFm1 1bzOg0 WnFm1 1bzOg0 WnFm1 1e7960 TQkw1 1e7960 TQkw1 1e7960|-25200,-21600,3.2.0/7200,11.1.0/7200",
  "America/Detroit|-19931|-21600,-18000,-14400|-2eODsN0 m8yFf1 V6LT22 7LMrK1 5u3Ys2 TOso1 DXQy82 NGde1 13ZFS2 13XNK1 9CmVa2 13XNK1 pois2 1Izba1 13ZFS2 13XNK1 13ZFS2 16v8A1 11sl22 16v8A1 13ZFS2 13XNK1 13ZFS2 13XNK1 13ZFS2 13XNK1 13ZFS2 13XNK1 13ZFS2 16v8A1 11sl22 16v8A1 13ZFS2 13XNK1 13ZFS2 13XNK1 13ZFS2 13XNK1 WnFm2 1bzOg1 WnFm2 1e7961 TQkw2 1e7961 TQkw2 1e7961 WnFm2 1bzOg1 WnFm2 1bzOg1 WnFm2 1e7961 TQkw2 1e7961 TQkw2 1e7961 WnFm2 1bzOg1 WnFm2 1bzOg1 WnFm2 1bzOg1 WnFm2 1e7961 TQkw2 1e7961 TQkw2 1e7961 WnFm2 1bzOg1 WnFm2 1bzOg1 WnFm2 1e7961 TQkw2 1e7961 TQkw2 1e7961|-18000,-14400,3.2.0/7200,11.1.0/7200",
  "America/Edmonton|-27232|-25200,-21600|-2bgbNC0 oOdva1 192tq0 YV0c1 fW240 1X67e1 16v8A0 11sl21 TOso0 1gGm41 Rh7y0 1gGm41 TOso0 Ddtp61 7LMrK0 3m6uQ1 TOso0 QvRa81 13XNK0 13ZFS1 13XNK0 13ZFS1 13XNK0 13ZFS1 13XNK0 13ZFS1 16v8A0 11sl21 16v8A0 13ZFS1 13XNK0 13ZFS1 13XNK0 13ZFS1 13XNK0 13ZFS1 13XNK0 13ZFS1 16v8A0 11sl21 16v8A0 13ZFS1 13XNK0 13ZFS1 13XNK0 13ZFS1 13XNK0 WnFm1 1bzOg0 WnFm1 1e7960 TQkw1 1e7960 TQkw1 1e7960 WnFm1 1bzOg0 WnFm1 1bzOg0 WnFm1 1e7960 TQkw1 1e7960 TQkw1 1e7960 WnFm1 1bzOg0 WnFm1 1bzOg0 WnFm1 1bzOg0 WnFm1 1e7960 TQkw1 1e7960 TQkw1 1e7960 WnFm1 1bzOg0 WnFm1 1bzOg0 WnFm1 1e7960 TQkw1 1e7960 TQkw1 1e7960|-25200,-21600,3.2.0/7200,11.1.0/7200",
  "America/Eirunepe|-16768|-18000,-14400|-1VB1Kg0 BUMOk1 13r1u0 1556w1 13eQE0 zB4oE1 NiOA0 1l18A1 HQJi0 1qtdS1 IdcQ0 1qtdS1 wBXi0 n0yiY1 u4Cs0 1XP4k1 lnbi0 1qPHq1 wBXi0 1qPHq1 HufK0 1qPHq1 HQJi0 BK7iU1 McrS0 1jdGU1 EArm0 1tJvO1 C36w0 c9HLa1 JF720 uCViw1 bulyw0|",
  "America/El_Salvador|-21408|-21600,-18000|-1GE1Uc0 2hFgNq1 Rh7y0 1gGm41 Rh7y0|",
  "America/Fort_Nelson|-29447|-28800,-25200|-2XFapr0 1bdd331 192tq0 NJEME1 7LMrK0 3m6uQ1 TOso0 1e91e1 TOso0 1e91e1 TOso0 1gGm41 Rh7y0 1gGm41 TOso0 1e91e1 TOso0 1e91e1 TOso0 1e91e1 TOso0 1e91e1 TOso0 1gGm41 TOso0 1e91e1 TOso0 1e91e1 TOso0 1e91e1 TOso0 1e91e1 TOso0 1gGm41 Rh7y0 1gGm41 13XNK0 13ZFS1 13XNK0 13ZFS1 13XNK0 13ZFS1 16v8A0 11sl21 16v8A0 13ZFS1 13XNK0 13ZFS1 13XNK0 13ZFS1 13XNK0 13ZFS1 13XNK0 13ZFS1 16v8A0 13ZFS1 13XNK0 13ZFS1 13XNK0 13ZFS1 13XNK0 13ZFS1 13XNK0 13ZFS1 16v8A0 11sl21 16v8A0 13ZFS1 13XNK0 13ZFS1 13XNK0 13ZFS1 13XNK0 13ZFS1 13XNK0 13ZFS1 16v8A0 11sl21 16v8A0 13ZFS1 13XNK0 13ZFS1 13XNK0 13ZFS1 13XNK0 WnFm1 1bzOg0 WnFm1 1e7960 TQkw1 1e7960 TQkw1 1e7960 WnFm1 1bzOg0 WnFm1 1bzOg0 WnFm1 1e7960 TQkw1 1e7960 TQkw1 1e7960 WnFm1 1bzOg0 WnFm1 1bzOg0 WnFm1 1bzOg0 WnFm1 1e7960 TQkw1 1e7960 TQkw1 1e7960 WnFm1 1bzOg0 WnFm1 1bzOg0 WnFm1 1e7960 TQkw1 1e7960 TQkw1 1e7960 Mek01 1ogus0 JGZa1 1ogus0 JGZa1 1ogus0 Mek01 1ogus0 JGZa1 1ogus0 JGZa1 1ogus0 JGZa1 1ogus0 JGZa1 1ogus0 JGZa1|",
  "America/Fortaleza|-9240|-10800,-7200|-1VB3HG0 BUMTC1 13r1u0 1556w1 13eQE0 zB4oE1 NiOA0 1l18A1 HQJi0 1qtdS1 IdcQ0 1qtdS1 wBXi0 n0yiY1 u4Cs0 1XP4k1 lnbi0 1qPHq1 wBXi0 1qPHq1 HufK0 1qPHq1 HQJi0 BK7iU1 McrS0 1jdGU1 EArm0 1tJvO1 C36w0 1tn2g1 C36w0 1vUn61 H7Mc0 kAsZW1 Rh7y0 1jdGU1 53JC0 25r4Q1 JF720|",
  "America/Glace_Bay|-14388|-14400,-10800|-2kgaBK0 xO9v61 192tq0 NJEME1 7LMrK0 gaoHm1 TOso0 DHyXC1 13XNK0 13ZFS1 13XNK0 13ZFS1 13XNK0 13ZFS1 13XNK0 13ZFS1 16v8A0 11sl21 16v8A0 13ZFS1 13XNK0 13ZFS1 13XNK0 13ZFS1 13XNK0 13ZFS1 13XNK0 13ZFS1 16v8A0 11sl21 16v8A0 13ZFS1 13XNK0 13ZFS1 13XNK0 13ZFS1 13XNK0 WnFm1 1bzOg0 WnFm1 1e7960 TQkw1 1e7960 TQkw1 1e7960 WnFm1 1bzOg0 WnFm1 1bzOg0 WnFm1 1e7960 TQkw1 1e7960 TQkw1 1e7960 WnFm1 1bzOg0 WnFm1 1bzOg0 WnFm1 1bzOg0 WnFm1 1e7960 TQkw1 1e7960 TQkw1 1e7960 WnFm1 1bzOg0 WnFm1 1bzOg0 WnFm1 1e7960 TQkw1 1e7960 TQkw1 1e7960|-14400,-10800,3.2.0/7200,11.1.0/7200",
  "America/Goose_Bay|-14500|-12652,-9052,-12600,-9000,-14400,-10800,-7200|-2XFeiw0 1bdcJG1 192tq0 z4pDa2 2nUqU3 Rh7y2 1gGm43 Rh7y2 1gGm43 Rh7y2 1jdGU3 OJMI2 1jdGU3 Rh7y2 1gGm43 Rh7y2 1gGm43 7eOWY2 1jdGU3 Rh7y2 1gGm43 Rh7y2 1gGm43 Rh7y2 1gGm43 Rh7y2 1jdGU3 Rh7y2 1bBGo3 TOso2 1e91e3 TOso2 1e91e3 TOso2 1e91e3 TOso2 1e91e3 TOso2 1gGm43 TOso2 1e91e3 TOso2 1e91e3 TOso2 1e91e3 TOso2 1e91e3 16v8A2 13ZFS3 13XNK2 13ZFS3 13XNK2 13ZFS3 13XNK2 13ZFS3 13XNK2 13ZFS3 16v8A2 MXh64 evwY5 16v8A4 13ZFS5 13XNK4 13ZFS5 13XNK4 13ZFS5 13XNK4 13ZFS5 13XNK4 13ZFS5 16v8A4 13ZFS5 13XNK4 13ZFS5 13XNK4 13ZFS5 13XNK4 13ZFS5 13XNK4 13ZFS5 16v8A4 11sl25 16v8A4 13ZFS5 13XNK4 13ZFS5 13XNK4 13ZFS5 13XNK4 13ZFS5 13XNK4 13ZFS5 16v8A4 11sl25 16v8A4 13ZFS5 13XNK4 13ZFS5 13XNK4 13ZFS5 13XNK4 WlOc5 1bzOg4 WnFm6 1e6d24 TRgA5 1e7964 TQkw5 1e7964 WnFm5 1bzOg4 WnFm5 1bzOg4 WnFm5 1e7964 TQkw5 1e7964 TQkw5 1e7964 WnFm5 1bzOg4 WnFm5 1bzOg4 WnFm5 1bzOg4 WnFm5 1e7964 TQkw5 1e7964 TQkw5 1e7964 WnFm5 1bzOg4 WnFm5 1bzOg4 WnFm5 1e7964 TQkw5 1e7964 TQkw5 1e7964 Mek05 1ogus4 JGZa5 1ogus4 JGZa5 1ogus4 Mek05 1ogus4 JGZa5|-14400,-10800,3.2.0/7200,11.1.0/7200",
  "America/Grand_Turk|-17072|-18430,-18000,-14400|-2KQyWY0 L9M1E1 2jBig22 13XNK1 13ZFS2 13XNK1 13ZFS2 13XNK1 13ZFS2 16v8A1 11sl22 16v8A1 13ZFS2 13XNK1 13ZFS2 13XNK1 13ZFS2 13XNK1 WnFm2 1bzOg1 WnFm2 1e7961 TQkw2 1e7961 TQkw2 1e7961 WnFm2 1bzOg1 WnFm2 1bzOg1 WnFm2 1e7961 TQkw2 1e7961 TQkw2 1e7961 WnFm2 1bzOg1 WnFm2 1bzOg1 WnFm2 1bzOg1 WnFm2 1e7961 TQkw2 1e7961 TQkw2 1e7961 WnFm2 1bzOg1 WnFm2 1bzOg1 WnFm2 1e7961 TQkw2 1e7961 TQkw2 1e7961 Mek02 1ogus1 JGZa2 1ogus1 JGZa2 1ogus1 Mek02 1ogus1 JGZa2 1ogus1 JGZa2 1ogus1 JGZa2 1ogus1 JGZa2 1ogus1 JGZa2 7OGg81|-18000,-14400,3.2.0/7200,11.1.0/7200",
  "America/Guatemala|-21724|-21600,-18000|-1LqW9e0 1TLgqw1 wYqQ0 jIOsM1 IW9W0 g0Yj61 YT840 vhaco1 TOso0|",
  "America/Guayaquil|-19160|-18840,-18000,-14400|-2KQypi0 1pysko1 28dqmA2 oZWM1|",
  "America/Guyana|-13959|-14400,-13500,-10800|-20LvMl0 7Ebup1 252d5i2 zzYgs0|",
  "America/Halifax|-15264|-14400,-10800|-2kganC0 tsLio1 14khi0 3h3Hi1 192tq0 3gZX21 EArm0 1sE5a1 IdcQ0 1nVT21 Ko480 1q6Kk1 HQJi0 1q6Kk1 MyVq0 1loyc1 RDB60 1loyc1 HufK0 1loyc1 RDB60 1loyc1 H7Mc0 1qPHq1 Fjos0 1sE5a1 K1AA0 1nVT21 P6gg0 1gjSw1 RDB60 1gjSw1 UaVW0 1loyc1 H7Mc0 1vUn61 HufK0 1qPHq1 C36w0 1loyc1 RDB60 1gjSw1 RDB60 1qtdS1 HufK0 1iRdm1 RDB60 1gjSw1 RDB60 Mgc81 7LMrK0 1e91e1 TOso0 1e91e1 TOso0 1e91e1 TOso0 1e91e1 TOso0 3oDPG1 TOso0 1e91e1 TOso0 1e91e1 TOso0 1e91e1 TOso0 3oDPG1 TOso0 1e91e1 TOso0 1e91e1 TOso0 1e91e1 TOso0 5wBji1 13XNK0 13ZFS1 13XNK0 13ZFS1 13XNK0 13ZFS1 16v8A0 11sl21 16v8A0 13ZFS1 13XNK0 13ZFS1 13XNK0 13ZFS1 13XNK0 13ZFS1 13XNK0 13ZFS1 16v8A0 13ZFS1 13XNK0 13ZFS1 13XNK0 13ZFS1 13XNK0 13ZFS1 13XNK0 13ZFS1 16v8A0 11sl21 16v8A0 13ZFS1 13XNK0 13ZFS1 13XNK0 13ZFS1 13XNK0 13ZFS1 13XNK0 13ZFS1 16v8A0 11sl21 16v8A0 13ZFS1 13XNK0 13ZFS1 13XNK0 13ZFS1 13XNK0 WnFm1 1bzOg0 WnFm1 1e7960 TQkw1 1e7960 TQkw1 1e7960 WnFm1 1bzOg0 WnFm1 1bzOg0 WnFm1 1e7960 TQkw1 1e7960 TQkw1 1e7960 WnFm1 1bzOg0 WnFm1 1bzOg0 WnFm1 1bzOg0 WnFm1 1e7960 TQkw1 1e7960 TQkw1 1e7960 WnFm1 1bzOg0 WnFm1 1bzOg0 WnFm1 1e7960 TQkw1 1e7960 TQkw1 1e7960|-14400,-10800,3.2.0/7200,11.1.0/7200",
  "America/Havana|-19768|-19776,-18000,-14400|-2KQyfu0 1dUui41 6b03e2 IdcQ1 oRPRm2 wYqQ1 1AZ2M2 zvLG1 1AZ2M2 wYqQ1 5QU002 wYqQ1 1AZ2M2 wYqQ1 E2ABq2 HQJi1 1pnNe2 JF721 16axa2 UaVW1 1gGm42 Rh7y1 1lL1K2 13XNK1 13ZFS2 13XNK1 13ZFS2 16v8A1 13ZFS2 WlNe1 1bBGo2 WIgM1 1bfcQ2 X4Kk1 1aSJi2 13XNK1 13ZFS2 16v8A1 11sl22 16v8A1 16x0I2 TOso1 WnFm2 1e7961 TQkw2 1e7961 1e91e2 TOso1 1e91e2 TOso1 1e91e2 TOso1 1e91e2 WlNe1 1bBGo2 WlNe1 TQkw2 1e7961 TQkw2 1e7961 WnFm2 1bzOg1 WnFm2 1bzOg1 11sl22 192tq1 11sl22 16w4E1 11roY2 16w4E1 11roY2 16w4E1 11roY2 16w4E1 11roY2 16w4E1 13YJO2 13YJO1 13YJO2 16w4E1 YU482 1e85a1 TPos2 1gFq01 TPos2 1e85a1 TPos2 1e85a1 WmJi2 1bAKk1 WmJi2 1bAKk1 TPos2 5wAne1 MdnW2 1lK5G1 OKIM2 1jcKQ1 MdnW2 1lK5G1 OKIM2 1lK5G1 OKIM2 1ohqw1 OKIM2|-18000,-14400,3.2.0/0,11.1.0/3600",
  "America/Hermosillo|-26632|-25200,-21600|-1EvGXS0 bBYv61 7kAHC0 Yc361 TOso0 14m9q1 lugwg0 1RekUg1 1bzOg0 WnFm1 1bzOg0 WnFm1 1bzOg0|",
  "America/Indiana/Indianapolis|-20678|-21600,-18000,-14400|-2XUYbm0 1bnUha1 1e7960 TQkw1 1e7960 KfAJO1 zvLG0 MANy1 7LMrK0 1e91e1 TOso0 1e91e1 TOso0 1e91e1 TOso0 1e91e1 TOso0 1gGm41 Rh7y0 1gGm41 TOso0 1e91e1 TOso0 1e91e1 TOso0 1e91e1 TOso0 1e91e1 5cgKs0 1e91e1 nuBZm2 13XNK1 13ZFS2 13XNK1 1dGboQ2 1e7961|-18000,-14400,3.2.0/7200,11.1.0/7200",
  "America/Indiana/Knox|-20790|-21600,-18000|-2XUYbm0 1bnUha1 1e7960 TQkw1 1e7960 LBHj21 7LMrK0 3m6uQ1 TOso0 1e91e1 TOso0 1e91e1 TOso0 1gGm41 Rh7y0 1gGm41 TOso0 1e91e1 TOso0 1e91e1 TOso0 1e91e1 TOso0 1e91e1 16v8A0 13ZFS1 13XNK0 13ZFS1 TOso0 1e91e1 TOso0 1e91e1 13XNK0 13ZFS1 16v8A0 13ZFS1 13XNK0 13ZFS1 3bVhm0 7upry1 13XNK0 13ZFS1 13XNK0 13ZFS1 13XNK0 13ZFS1 13XNK0 13ZFS1 16v8A0 13ZFS1 13XNK0 13ZFS1 13XNK0 pois1 1Izba0 H9Ek1 1qNPi0 13ZFS1 16v8A0 11sl21 16v8A0 13ZFS1 13XNK0 13ZFS1 13XNK0 13ZFS1 13XNK0 13ZFS1 13XNK0 13ZFS1 16v8A0 11sl21 16v8A0 13ZFS1 13XNK0 13ZFS1 13XNK0 13ZFS1 13XNK0 WnFm1 1bzOg0 WnFm1 1e7960 TQkw1 1e7960 TQkw1 1e7960 WnFm1 xezYY0|-21600,-18000,3.2.0/7200,11.1.0/7200",
  "America/Indiana/Marengo|-20723|-21600,-18000,-14400|-2XUYbm0 1bnUha1 1e7960 TQkw1 1e7960 LBHj21 7LMrK0 bUtK81 TOso0 5u3Ys1 TOso0 1e91e1 TOso0 1gGm41 TOso0 1e91e1 TOso0 1e91e1 TOso0 1e91e1 TOso0 1e91e1 TOso0 1gGm41 h4cdG2 13XNK1 13ZFS2 13XNK1 13ZFS2 16v8A1 13ZFS2 13XNK1 13ZFS2 13XNK1 2P77W2 1qNPi1 12ZQFW2 1e7961|-18000,-14400,3.2.0/7200,11.1.0/7200",
  "America/Indiana/Petersburg|-20947|-21600,-18000|-2XUYbm0 1bnUha1 1e7960 TQkw1 1e7960 LBHj21 7LMrK0 ksP7i1 RiZG0 1gGm41 TOso0 1e91e1 TOso0 1e91e1 TOso0 1e91e1 TOso0 1e91e1 TOso0 1gGm41 13XNK0 13ZFS1 13XNK0 13ZFS1 13XNK0 13ZFS1 13XNK0 13ZFS1 3esCc0 13ZFS1 13XNK0 13ZFS1 13XNK0 13ZFS1 13XNK0 13ZFS1 13XNK0 13ZFS1 16v8A0 13ZFS1 13XNK0 13ZFS1 13XNK0 pois1 1Izba0 H9Ek1 1qNPi0 13ZFS1 16v8A0 11sl21 1120Fy0 Mek01|-18000,-14400,3.2.0/7200,11.1.0/7200",
  "America/Indiana/Tell_City|-20823|-21600,-18000,-14400|-2XUYbm0 1bnUha1 1e7960 TQkw1 1e7960 LBHj21 7LMrK0 ksP7i1 RiZG0 1gGm41 TOso0 1e91e1 TOso0 1e91e1 TOso0 1e91e1 TOso0 1e91e1 TOso0 1gGm41 13XNK0 13ZFS1 13XNK0 13ZFS1 13XNK0 13ZFS1 7unzq0 13ZFS1 13XNK0 13ZFS2 13WRG1 13ZFS2 13XNK1 1eUju00|-21600,-18000,3.2.0/7200,11.1.0/7200",
  "America/Indiana/Vevay|-20416|-21600,-18000,-14400|-2XUYbm0 1bnUha1 1e7960 TQkw1 1e7960 LBHj21 7LMrK0 iimaY1 w2ZeE2 13XNK1 13ZFS2 13XNK1 13ZFS2 16v8A1 13ZFS2 13XNK1 19nJ6M2 1e7961|-18000,-14400,3.2.0/7200,11.1.0/7200",
  "America/Indiana/Vincennes|-21007|-21600,-18000,-14400|-2XUYbm0 1bnUha1 1e7960 TQkw1 1e7960 LBHj21 7LMrK0 1e91e1 TOso0 e2rdK1 TOso0 1e91e1 TOso0 1gEtW1 RiZG0 1gGm41 TOso0 1e91e1 TOso0 1e91e1 TOso0 1e91e1 TOso0 1e91e1 16v8A0 13ZFS1 Rh7y0 1gGm41 13XNK0 13ZFS1 13XNK0 13ZFS1 aGjMQ2 13XNK1 13ZFS2 13XNK1 1eUju00 Mek01|-18000,-14400,3.2.0/7200,11.1.0/7200",
  "America/Indiana/Winamac|-20785|-21600,-18000,-14400|-2XUYbm0 1bnUha1 1e7960 TQkw1 1e7960 LBHj21 7LMrK0 1e91e1 TOso0 1e91e1 TOso0 1e91e1 TOso0 1e91e1 TOso0 1gGm41 Rh7y0 1gGm41 TOso0 1e91e1 TOso0 1e91e1 TOso0 1e91e1 TOso0 1e91e1 16v8A0 13ZFS1 13XNK0 13ZFS1 TOso0 1e91e1 TOso0 1e91e1 TOso0 1e91e1 TOso0 1gGm41 h4cdG2 13XNK1 13ZFS2 13XNK1 1eUju00 Mek02|-18000,-14400,3.2.0/7200,11.1.0/7200",
  "America/Inuvik|0|-28800,-25200,-21600|-AiV7W0 FhdAI1 13XNK0 13ZFS1 13XNK0 13ZFS1 13XNK0 13ZFS1 13XNK0 13ZFS1 16v8A0 11sl21 16v8A0 13ZFS1 13XNK0 13ZFS2 13WRG1 13ZFS2 13XNK1 13ZFS2 13XNK1 13ZFS2 16v8A1 11sl22 16v8A1 13ZFS2 13XNK1 13ZFS2 13XNK1 13ZFS2 13XNK1 WnFm2 1bzOg1 WnFm2 1e7961 TQkw2 1e7961 TQkw2 1e7961 WnFm2 1bzOg1 WnFm2 1bzOg1 WnFm2 1e7961 TQkw2 1e7961 TQkw2 1e7961 WnFm2 1bzOg1 WnFm2 1bzOg1 WnFm2 1bzOg1 WnFm2 1e7961 TQkw2 1e7961 TQkw2 1e7961 WnFm2 1bzOg1 WnFm2 1bzOg1 WnFm2 1e7961 TQkw2 1e7961 TQkw2 1e7961|-25200,-21600,3.2.0/7200,11.1.0/7200",
  "America/Iqaluit|0|-14400,-18000,-21600|-WyH160 6Layk1 ULM7m0 13XNK1 13ZFS0 13XNK1 13ZFS0 13XNK1 13ZFS0 13XNK1 13ZFS0 16v8A1 11sl20 16v8A1 13ZFS0 13XNK1 13ZFS0 13XNK1 13ZFS0 13XNK1 13ZFS0 13XNK1 13ZFS0 16v8A1 11sl20 16v8A1 13ZFS0 13XNK1 13ZFS0 13XNK1 13ZFS0 13XNK1 WnFm0 1bzOg1 WnFm0 1e7961 TQkw0 1e7961 TQkw0 1e7961 WnFm0 1bzOg1 WnFm0 1bzOg1 WnFm0 1e7961 TQkw0 1e7961 TQkw0 1e7961 WnFm0 1bzOg1 WnFm0 1bzOg1 WnFm0 1bzOg1 WnFm0 1e7962 TRgA1 27Wxy0 1e7961 WnFm0 1bzOg1 WnFm0 1bzOg1 WnFm0 1e7961 TQkw0 1e7961 TQkw0 1e7961|-18000,-14400,3.2.0/7200,11.1.0/7200",
  "America/Jamaica|-18430|-18000,-14400|-1ZGMVk0 28gm9I1 1Izba0 H9Ek1 1qNPi0 13ZFS1 16v8A0 11sl21 16v8A0 13ZFS1 13XNK0 13ZFS1 13XNK0 13ZFS1 13XNK0 13ZFS1 13XNK0 13ZFS1 16v8A0 11sl21 16v8A0|",
  "America/Juneau|54139|-32261,-28800,-25200,-32400|-3wgI1x0 1884QI1 1qzn4v2 7LMrK1 OlmlG2 13XNK1 13ZFS2 13XNK1 13ZFS2 16v8A1 13ZFS2 13XNK1 13ZFS2 13XNK1 pois2 1Izba1 H9Ek2 1qNPi1 13ZFS2 16v8A1 11sl22 16v8A1 13ZFS2 13XNK1 13ZFS2 13XNK1 3bX9u2 13XNK1 13ZFS2 16v8A1 11sl22 16v8A3 140BW1 13XNK3 13ZFS1 13XNK3 13ZFS1 13XNK3 WnFm1 1bzOg3 WnFm1 1e7963 TQkw1 1e7963 TQkw1 1e7963 WnFm1 1bzOg3 WnFm1 1bzOg3 WnFm1 1e7963 TQkw1 1e7963 TQkw1 1e7963 WnFm1 1bzOg3 WnFm1 1bzOg3 WnFm1 1bzOg3 WnFm1 1e7963 TQkw1 1e7963 TQkw1 1e7963 WnFm1 1bzOg3 WnFm1 1bzOg3 WnFm1 1e7963 TQkw1 1e7963 TQkw1 1e7963|-32400,-28800,3.2.0/7200,11.1.0/7200",
  "America/Kentucky/Louisville|-20582|-21600,-18000,-14400|-2XUYbm0 1bnUha1 1e7960 TQkw1 1e7960 3euuk1 IzGo0 FYdSo1 TOso0 MANy1 7LMrK0 1e7a41 cHBi0 8lHva1 Rh7y0 1gGm41 TOso0 1e91e1 TOso0 1e91e1 TOso0 1e91e1 TOso0 1e91e1 TOso0 1gGm41 13XNK0 13ZFS1 13XNK0 13ZFS1 13XNK0 13ZFS1 13XNK0 13ZFS1 16v8A0 13ZFS1 eWeK42 13XNK1 13ZFS2 13XNK1 13ZFS2 13XNK1 13ZFS2 16v8A1 13ZFS2 13XNK1 13ZFS2 13XNK1 2P77W2 1qNPi1 13ZFS2 16v8A1 11sl22 16v8A1 13ZFS2 13XNK1 13ZFS2 13XNK1 13ZFS2 13XNK1 13ZFS2 13XNK1 13ZFS2 16v8A1 11sl22 16v8A1 13ZFS2 13XNK1 13ZFS2 13XNK1 13ZFS2 13XNK1 WnFm2 1bzOg1 WnFm2 1e7961 TQkw2 1e7961 TQkw2 1e7961 WnFm2 1bzOg1 WnFm2 1bzOg1 WnFm2 1e7961 TQkw2 1e7961 TQkw2 1e7961 WnFm2 1bzOg1 WnFm2 1bzOg1 WnFm2 1bzOg1 WnFm2 1e7961 TQkw2 1e7961 TQkw2 1e7961 WnFm2 1bzOg1 WnFm2 1bzOg1 WnFm2 1e7961 TQkw2 1e7961 TQkw2 1e7961|-18000,-14400,3.2.0/7200,11.1.0/7200",
  "America/Kentucky/Monticello|-20364|-21600,-18000,-14400|-2XUYbm0 1bnUha1 1e7960 TQkw1 1e7960 LBHj21 7LMrK0 MdoS41 13XNK0 13ZFS1 13XNK0 13ZFS1 13XNK0 13ZFS1 16v8A0 13ZFS1 13XNK0 13ZFS1 13XNK0 pois1 1Izba0 H9Ek1 1qNPi0 13ZFS1 16v8A0 11sl21 16v8A0 13ZFS1 13XNK0 13ZFS1 13XNK0 13ZFS1 13XNK0 13ZFS1 13XNK0 13ZFS1 16v8A0 11sl21 16v8A0 13ZFS1 13XNK0 13ZFS1 13XNK0 13ZFS1 13XNK0 WnFm1 1bzOg0 WnFm1 1e7960 TQkw1 1e7960 TQkw1 1e7960 WnFm1 1bzOg0 WnFm1 1bzOg0 WnFm1 1e7960 TQkw1 1e7960 TQkw1 1e7960 WnFm1 1bzOg0 WnFm1 1bzOg0 WnFm1 1bzOg0 WnFm1 1e7960 TQkw1 27Wxy2 1e7961 WnFm2 1bzOg1 WnFm2 1bzOg1 WnFm2 1e7961 TQkw2 1e7961 TQkw2 1e7961|-18000,-14400,3.2.0/7200,11.1.0/7200",
  "America/La_Paz|-16356|-12756,-14400|-1jC3WA0 VgmA1|",
  "America/Lima|-18492|-18516,-18000,-14400|-2KQyA40 DEEdy1 10QMHi2 wBXi1 12bi82 13XNK1 13ZFS2 13XNK1 1zL4Zy2 wBXi1 1BHZS2 wBXi1 5SInK2 wBXi1 812kU2 wBXi1|",
  "America/Los_Angeles|-28378|-28800,-25200|-2XUWje0 1bnUha1 1e7960 TQkw1 1e7960 LBHj21 7LMrK0 5ePYo1 1IcGE0 2PsFq1 Ri3C0 1gFq01 TPos0 1e85a1 TPos0 1e85a1 TPos0 1e85a1 TPos0 1e85a1 TPos0 1gFq01 TPos0 1e85a1 TPos0 1e85a1 TPos0 1e85a1 TPos0 1e85a1 TPos0 1gFq01 Ri3C0 1gFq01 13YJO0 13YJO1 13YJO0 13YJO1 13YJO0 13YJO1 16w4E0 11roY1 16w4E0 13ZFS1 13XNK0 13ZFS1 13XNK0 13ZFS1 13XNK0 13ZFS1 13XNK0 13ZFS1 16v8A0 13ZFS1 13XNK0 13ZFS1 13XNK0 pois1 1Izba0 H9Ek1 1qNPi0 13ZFS1 16v8A0 11sl21 16v8A0 13ZFS1 13XNK0 13ZFS1 13XNK0 13ZFS1 13XNK0 13ZFS1 13XNK0 13ZFS1 16v8A0 11sl21 16v8A0 13ZFS1 13XNK0 13ZFS1 13XNK0 13ZFS1 13XNK0 WnFm1 1bzOg0 WnFm1 1e7960 TQkw1 1e7960 TQkw1 1e7960 WnFm1 1bzOg0 WnFm1 1bzOg0 WnFm1 1e7960 TQkw1 1e7960 TQkw1 1e7960 WnFm1 1bzOg0 WnFm1 1bzOg0 WnFm1 1bzOg0 WnFm1 1e7960 TQkw1 1e7960 TQkw1 1e7960 WnFm1 1bzOg0 WnFm1 1bzOg0 WnFm1 1e7960 TQkw1 1e7960 TQkw1 1e7960|-28800,-25200,3.2.0/7200,11.1.0/7200",
  "America/Maceio|-8572|-10800,-7200|-1VB3Ss0 BUN4o1 13r1u0 1556w1 13eQE0 zB4oE1 NiOA0 1l18A1 HQJi0 1qtdS1 IdcQ0 1qtdS1 wBXi0 n0yiY1 u4Cs0 1XP4k1 lnbi0 1qPHq1 wBXi0 1qPHq1 HufK0 1qPHq1 HQJi0 BK7iU1 McrS0 1jdGU1 EArm0 1tJvO1 C36w0 1tn2g1 C36w0 1vUn61 H7Mc0 c7aqk1 H7Mc0 7MaNq1 Rh7y0 1jdGU1 53JC0 25r4Q1 JF720|",
  "America/Managua|-20708|-20712,-21600,-18000|-2KQy0k0 1wYvcw1 1kYXX22 3PNHG1 8IxwI2 zSfe1 1y5eo2 zSfe1 oBWDu2 1yIz61 zU7m2 8xDm81 hFcHK2 11qsU1 1eaTm2 TNwk1|",
  "America/Manaus|-14404|-14400,-10800|-1VB2mo0 BUMuo1 13r1u0 1556w1 13eQE0 zB4oE1 NiOA0 1l18A1 HQJi0 1qtdS1 IdcQ0 1qtdS1 wBXi0 n0yiY1 u4Cs0 1XP4k1 lnbi0 1qPHq1 wBXi0 1qPHq1 HufK0 1qPHq1 HQJi0 BK7iU1 McrS0 1jdGU1 EArm0 1tJvO1 C36w0 c9HLa1 JF720|",
  "America/Martinique|-14660|-14400,-10800|-21iRru0 2ndFr61 11qsU0|",
  "America/Matamoros|-23400|-21600,-18000|-1EvHTW0 2huMNy1 1e7960 fSDlu1 1bzOg0 WnFm1 1bzOg0 WnFm1 1bzOg0 WnFm1 1e7960 TQkw1 1e7960 16x0I1 Rh7y0 16x0I1 1bzOg0 WnFm1 1bzOg0 WnFm1 1e7960 TQkw1 1e7960 TQkw1 1e7960 TQkw1 1e7960 WnFm1 1bzOg0 WnFm1 1bzOg0|-21600,-18000,3.2.0/7200,11.1.0/7200",
  "America/Mazatlan|-25540|-25200,-21600|-1EvGXS0 bBYv61 7kAHC0 Yc361 TOso0 14m9q1 lugwg0 1RekUg1 1bzOg0 WnFm1 1bzOg0 WnFm1 1bzOg0 WnFm1 1e7960 TQkw1 1e7960 16x0I1 Rh7y0 16x0I1 1bzOg0 WnFm1 1bzOg0 WnFm1 1e7960 TQkw1 1e7960 TQkw1 1e7960 TQkw1 1e7960 WnFm1 1bzOg0 WnFm1 1bzOg0 WnFm1 1e7960 TQkw1 1e7960 TQkw1 1e7960 WnFm1 1bzOg0 WnFm1 1bzOg0 WnFm1 1bzOg0 WnFm1 1e7960 TQkw1 1e7960 TQkw1 1e7960 WnFm1 1bzOg0 WnFm1 1bzOg0 WnFm1 1e7960 TQkw1 1e7960|",
  "America/Menominee|-21027|-21600,-18000|-2U051b0 17t16Z1 1e7960 TQkw1 1e7960 LBHj21 7LMrK0 1e91e1 TOso0 FMZ6o1 16v8A0 5jUD61 9Cl320 pois1 1Izba0 H9Ek1 1qNPi0 13ZFS1 16v8A0 11sl21 16v8A0 13ZFS1 13XNK0 13ZFS1 13XNK0 13ZFS1 13XNK0 13ZFS1 13XNK0 13ZFS1 16v8A0 11sl21 16v8A0 13ZFS1 13XNK0 13ZFS1 13XNK0 13ZFS1 13XNK0 WnFm1 1bzOg0 WnFm1 1e7960 TQkw1 1e7960 TQkw1 1e7960 WnFm1 1bzOg0 WnFm1 1bzOg0 WnFm1 1e7960 TQkw1 1e7960 TQkw1 1e7960 WnFm1 1bzOg0 WnFm1 1bzOg0 WnFm1 1bzOg0 WnFm1 1e7960 TQkw1 1e7960 TQkw1 1e7960 WnFm1 1bzOg0 WnFm1 1bzOg0 WnFm1 1e7960 TQkw1 1e7960 TQkw1 1e7960|-21600,-18000,3.2.0/7200,11.1.0/7200",
  "America/Merida|-21508|-21600,-18000|-1EvHTW0 246BpK1 1OJhu0 sGcAU1 1bzOg0 WnFm1 1bzOg0 WnFm1 1bzOg0 WnFm1 1e7960 TQkw1 1e7960 16x0I1 Rh7y0 16x0I1 1bzOg0 WnFm1 1bzOg0 WnFm1 1e7960 TQkw1 1e7960 TQkw1 1e7960 TQkw1 1e7960 WnFm1 1bzOg0 WnFm1 1bzOg0 WnFm1 1e7960 TQkw1 1e7960 TQkw1 1e7960 WnFm1 1bzOg0 WnFm1 1bzOg0 WnFm1 1bzOg0 WnFm1 1e7960 TQkw1 1e7960 TQkw1 1e7960 WnFm1 1bzOg0 WnFm1 1bzOg0 WnFm1 1e7960 TQkw1 1e7960|",
  "America/Metlakatla|54822|-31578,-28800,-25200,-32400|-3wgI1x0 1884FH1 1qznfw2 7LMrK1 OlmlG2 13XNK1 13ZFS2 13XNK1 13ZFS2 16v8A1 13ZFS2 13XNK1 13ZFS2 13XNK1 pois2 1Izba1 H9Ek2 1qNPi1 13ZFS2 16v8A1 11sl22 16v8A1 13ZFS2 13XNK1 13ZFS2 13XNK1 13ZFS2 13XNK1 13ZFS2 13XNK1 13ZFS2 16v8A1 11sl22 16v8A1 16lWeI3 Mek01 1ogus3 JGZa1 1ogus3 JGZa1 1QbbG3|-32400,-28800,3.2.0/7200,11.1.0/7200",
  "America/Mexico_City|-23796|-25200,-21600,-18000|-1EvGXS0 bBYv61 7kAHC0 Yc361 TOso0 14m9q1 eCF0s2 OJMI1 37eXm2 EWUU1 5Myhq2 NEm41 cm1XO2 YT841 1zzS5G2 1bzOg1 WnFm2 1bzOg1 WnFm2 1bzOg1 WnFm2 1e7961 TQkw2 1e7961 16x0I2 Rh7y1 16x0I2 1bzOg1 WnFm2 1bzOg1 WnFm2 1e7961 TQkw2 1e7961 TQkw2 1e7961 TQkw2 1e7961 WnFm2 1bzOg1 WnFm2 1bzOg1 WnFm2 1e7961 TQkw2 1e7961 TQkw2 1e7961 WnFm2 1bzOg1 WnFm2 1bzOg1 WnFm2 1bzOg1 WnFm2 1e7961 TQkw2 1e7961 TQkw2 1e7961 WnFm2 1bzOg1 WnFm2 1bzOg1 WnFm2 1e7961 TQkw2 1e7961|",
  "America/Miquelon|-13480|-14400,-10800,-7200|-212yiQ0 2n6qda1 eNcHu2 1bzOg1 WnFm2 1e7961 TQkw2 1e7961 TQkw2 1e7961 WnFm2 1bzOg1 WnFm2 1bzOg1 WnFm2 1e7961 TQkw2 1e7961 TQkw2 1e7961 WnFm2 1bzOg1 WnFm2 1bzOg1 WnFm2 1bzOg1 WnFm2 1e7961 TQkw2 1e7961 TQkw2 1e7961 WnFm2 1bzOg1 WnFm2 1bzOg1 WnFm2 1e7961 TQkw2 1e7961 TQkw2 1e7961|-10800,-7200,3.2.0/7200,11.1.0/7200",
  "America/Moncton|-15548|-18000,-14400,-10800|-2XNyZe0 DxpjK1 xO8yQ2 192tq1 vefrW2 wYqQ1 1AZ2M2 wYqQ1 1AZ2M2 wYqQ1 1AZ2M2 wYqQ1 1AZ2M2 wYqQ1 1AZ2M2 wYqQ1 1y5eo2 H7Mc1 1oEQ82 JiDu1 1jAas2 QUE01 MYda2 7LMrK1 1e91e2 TOso1 1e91e2 TOso1 1e91e2 TOso1 1e91e2 TOso1 1gGm42 Rh7y1 1gGm42 TOso1 1e91e2 TOso1 1e91e2 TOso1 1e91e2 TOso1 1e91e2 TOso1 1gGm42 TOso1 1e91e2 13XNK1 13ZFS2 13XNK1 13ZFS2 13XNK1 13ZFS2 16v8A1 13ZFS2 13XNK1 13ZFS2 13XNK1 13ZFS2 13XNK1 13ZFS2 13XNK1 13ZFS2 16v8A1 11sl22 16v8A1 13ZFS2 13XNK1 13ZFS2 13XNK1 13ZFS2 13XNK1 13ZFS2 13XNK1 13ZFS2 16v8A1 13ZFS2 13XNK1 3bX9u2 13XNK1 13ZFS2 13XNK1 13ZFS2 16v8A1 11sl22 16v8A1 13ZFS2 13XNK1 13ZFS2 13XNK1 13ZFS2 13XNK1 13ZFS2 13XNK1 13ZFS2 16v8A1 11sl22 16v8A1 13ZFS2 13XNK1 13ZFS2 13XNK1 13ZFS2 13XNK1 WnFm2 1bzOg1 WnFm2 1e7961 TQkw2 1e7961 TQkw2 1e7961 WnFm2 1bzOg1 WnFm2 1bzOg1 WlOc2 1e7961 TQkw2 1e7961 TQkw2 1e7961 WnFm2 1bzOg1 WnFm2 1bzOg1 WnFm2 1bzOg1 WnFm2 1e7961 TQkw2 1e7961 TQkw2 1e7961 WnFm2 1bzOg1 WnFm2 1bzOg1 WnFm2 1e7961 TQkw2 1e7961 TQkw2 1e7961|-14400,-10800,3.2.0/7200,11.1.0/7200",
  "America/Monterrey|-24076|-25200,-21600,-18000|-1EvHTW0 bBZra1 7kAHC0 Yc361 TOso0 14m9q1 1VBPZS2 1e7961 fSDlu2 1bzOg1 WnFm2 1bzOg1 WnFm2 1bzOg1 WnFm2 1e7961 TQkw2 1e7961 16x0I2 Rh7y1 16x0I2 1bzOg1 WnFm2 1bzOg1 WnFm2 1e7961 TQkw2 1e7961 TQkw2 1e7961 TQkw2 1e7961 WnFm2 1bzOg1 WnFm2 1bzOg1 WnFm2 1e7961 TQkw2 1e7961 TQkw2 1e7961 WnFm2 1bzOg1 WnFm2 1bzOg1 WnFm2 1bzOg1 WnFm2 1e7961 TQkw2 1e7961 TQkw2 1e7961 WnFm2 1bzOg1 WnFm2 1bzOg1 WnFm2 1e7961 TQkw2 1e7961|",
  "America/Montevideo|-13491|-14400,-10800,-12600,-9000,-7200,-5400|-1I4SJf0 7ir131 14khi2 14lGo1 13YgM2 14lGo1 13YgM2 gbtEY1 TOVq2 1e8yc1 TOVq2 1e8yc1 TOVq2 1e8yc1 TOVq2 1gFT21 RhAA2 1gFT21 RhAA2 16wxG1 13YgM2 1e8yc1 TOVq2 IXz21 2VfPa3 wCqk1 yAltK3 11qVW1 mQuA4 hKpO1 aQv0k4 11qsU1 5H78c3 169841 2YTwI4 i6Tm1 3Yaxq4 ur601 3bX9u5 khhC3 11sl21 EBQs4 zvLG1 3Gpby4 rTLa1 1AZ2M4 wYqQ1 1G3Is4 rTLa1 kjCM4 1SIww1 gxBcs4 rxhC1 1G3Is4 ur601 1oimA4 H7Mc1 1oimA4 McrS1 1oimA4 JF721 1lL1K4 McrS1 oGeBO4 16x0I1 194ly4 TOso1 1bBGo4 WlNe1 1e91e4 TOso1 1e91e4 TOso1 1e91e4 WlNe1 1bBGo4 WlNe1 1bBGo4 WlNe1 1e91e4 TOso1 1e91e4 TOso1 1e91e4 TOso1|",
  "America/New_York|-17762|-18000,-14400|-2XUZ7q0 1bnUha1 1e7960 TQkw1 1e7960 TQkw1 1gEtW0 11sl21 TOso0 1gGm41 Rh7y0 1gGm41 TOso0 1e91e1 TOso0 1e91e1 TOso0 1e91e1 TOso0 1e91e1 TOso0 1gGm41 TOso0 1e91e1 TOso0 1e91e1 TOso0 1e91e1 TOso0 1e91e1 TOso0 1gGm41 Rh7y0 1gGm41 TOso0 1e91e1 TOso0 1e91e1 TOso0 1e91e1 TOso0 1e91e1 TOso0 1gGm41 Rh7y0 1gGm41 TOso0 1e91e1 TOso0 MANy1 7LMrK0 1e91e1 TOso0 1e91e1 TOso0 1e91e1 TOso0 1e91e1 TOso0 1gGm41 Rh7y0 1gGm41 TOso0 1e91e1 TOso0 1e91e1 TOso0 1e91e1 TOso0 1e91e1 16v8A0 13ZFS1 13XNK0 13ZFS1 13XNK0 13ZFS1 13XNK0 13ZFS1 13XNK0 13ZFS1 16v8A0 13ZFS1 13XNK0 13ZFS1 13XNK0 13ZFS1 13XNK0 13ZFS1 13XNK0 13ZFS1 16v8A0 11sl21 16v8A0 13ZFS1 13XNK0 13ZFS1 13XNK0 13ZFS1 13XNK0 13ZFS1 13XNK0 13ZFS1 16v8A0 13ZFS1 13XNK0 13ZFS1 13XNK0 pois1 1Izba0 H9Ek1 1qNPi0 13ZFS1 16v8A0 11sl21 16v8A0 13ZFS1 13XNK0 13ZFS1 13XNK0 13ZFS1 13XNK0 13ZFS1 13XNK0 13ZFS1 16v8A0 11sl21 16v8A0 13ZFS1 13XNK0 13ZFS1 13XNK0 13ZFS1 13XNK0 WnFm1 1bzOg0 WnFm1 1e7960 TQkw1 1e7960 TQkw1 1e7960 WnFm1 1bzOg0 WnFm1 1bzOg0 WnFm1 1e7960 TQkw1 1e7960 TQkw1 1e7960 WnFm1 1bzOg0 WnFm1 1bzOg0 WnFm1 1bzOg0 WnFm1 1e7960 TQkw1 1e7960 TQkw1 1e7960 WnFm1 1bzOg0 WnFm1 1bzOg0 WnFm1 1e7960 TQkw1 1e7960 TQkw1 1e7960|-18000,-14400,3.2.0/7200,11.1.0/7200",
  "America/Nome|46702|-39698,-39600,-36000,-32400,-28800|-3wgI1x0 1886MF1 1qznWK2 7LMrK1 OlmlG2 13XNK1 13ZFS2 13XNK1 13ZFS2 16v8A1 13ZFS2 13XNK1 13ZFS2 13XNK1 pois2 1Izba1 H9Ek2 1qNPi1 13ZFS2 16v8A1 11sl22 16v8A1 13ZFS2 13XNK1 13ZFS2 13XNK1 13ZFS2 13XNK1 13ZFS2 13XNK1 13ZFS2 16v8A1 11sl22 16v8A3 13XNK4 13XNK3 13ZFS4 13XNK3 13ZFS4 13XNK3 WnFm4 1bzOg3 WnFm4 1e7963 TQkw4 1e7963 TQkw4 1e7963 WnFm4 1bzOg3 WnFm4 1bzOg3 WnFm4 1e7963 TQkw4 1e7963 TQkw4 1e7963 WnFm4 1bzOg3 WnFm4 1bzOg3 WnFm4 1bzOg3 WnFm4 1e7963 TQkw4 1e7963 TQkw4 1e7963 WnFm4 1bzOg3 WnFm4 1bzOg3 WnFm4 1e7963 TQkw4 1e7963 TQkw4 1e7963|-32400,-28800,3.2.0/7200,11.1.0/7200",
  "America/Noronha|-7780|-7200,-3600|-1VB45e0 BUMl61 13r1u0 1556w1 13eQE0 zB4oE1 NiOA0 1l18A1 HQJi0 1qtdS1 IdcQ0 1qtdS1 wBXi0 n0yiY1 u4Cs0 1XP4k1 lnbi0 1qPHq1 wBXi0 1qPHq1 HufK0 1qPHq1 HQJi0 BK7iU1 McrS0 1jdGU1 EArm0 1tJvO1 C36w0 1tn2g1 C36w0 1vUn61 H7Mc0 kAsZW1 Rh7y0 1jdGU1 2woM0 27YpG1 JF720|",
  "America/North_Dakota/Beulah|-24427|-25200,-21600|-2XUXfi0 1bnUha1 1e7960 TQkw1 1e7960 LBHj21 7LMrK0 K5ros1 13XNK0 13ZFS1 13XNK0 13ZFS1 13XNK0 13ZFS1 13XNK0 13ZFS1 16v8A0 13ZFS1 13XNK0 13ZFS1 13XNK0 pois1 1Izba0 H9Ek1 1qNPi0 13ZFS1 16v8A0 11sl21 16v8A0 13ZFS1 13XNK0 13ZFS1 13XNK0 13ZFS1 13XNK0 13ZFS1 13XNK0 13ZFS1 16v8A0 11sl21 16v8A0 13ZFS1 13XNK0 13ZFS1 13XNK0 13ZFS1 13XNK0 WnFm1 1bzOg0 WnFm1 1e7960 TQkw1 1e7960 TQkw1 1e7960 WnFm1 1bzOg0 WnFm1 1bzOg0 WnFm1 1e7960 TQkw1 1e7960 TQkw1 1e7960 WnFm1 1bzOg0 WnFm1 1bzOg0 WnFm1 1bzOg0 WnFm1 1e7960 TQkw1 1e7960 TQkw1 1e7960 WnFm1 1bzOg0 WnFm1 1bzOg0 WnFm1 1e7960 TQkw1 1e7960 TQkw1 1e7960 Mek01 1ogus0 JGZa1 1ogus0 JGZa1 1ogus0 Mek01|-21600,-18000,3.2.0/7200,11.1.0/7200",
  "America/North_Dakota/Center|-24312|-25200,-21600,-18000|-2XUXfi0 1bnUha1 1e7960 TQkw1 1e7960 LBHj21 7LMrK0 K5ros1 13XNK0 13ZFS1 13XNK0 13ZFS1 13XNK0 13ZFS1 13XNK0 13ZFS1 16v8A0 13ZFS1 13XNK0 13ZFS1 13XNK0 pois1 1Izba0 H9Ek1 1qNPi0 13ZFS1 16v8A0 11sl21 16v8A0 13ZFS1 13XNK0 13ZFS1 13XNK0 13ZFS1 13XNK0 13ZFS1 13XNK0 13ZFS1 16v8A0 11sl21 16v8A0 13ZFS1 13XNK0 13ZFS1 13XNK0 13ZFS1 13XNK0 WnFm1 1bzOg0 WnFm1 1e7960 TQkw1 1e7960 TQkw1 1e7960 WnFm1 1bzOg0 WnFm1 27Wxy2 1e7961 TQkw2 1e7961 TQkw2 1e7961 WnFm2 1bzOg1 WnFm2 1bzOg1 WnFm2 1bzOg1 WnFm2 1e7961 TQkw2 1e7961 TQkw2 1e7961 WnFm2 1bzOg1 WnFm2 1bzOg1 WnFm2 1e7961 TQkw2 1e7961 TQkw2 1e7961|-21600,-18000,3.2.0/7200,11.1.0/7200",
  "America/North_Dakota/New_Salem|-24339|-25200,-21600,-18000|-2XUXfi0 1bnUha1 1e7960 TQkw1 1e7960 LBHj21 7LMrK0 K5ros1 13XNK0 13ZFS1 13XNK0 13ZFS1 13XNK0 13ZFS1 13XNK0 13ZFS1 16v8A0 13ZFS1 13XNK0 13ZFS1 13XNK0 pois1 1Izba0 H9Ek1 1qNPi0 13ZFS1 16v8A0 11sl21 16v8A0 13ZFS1 13XNK0 13ZFS1 13XNK0 13ZFS1 13XNK0 13ZFS1 13XNK0 13ZFS1 16v8A0 11sl21 16v8A0 13ZFS1 13XNK0 13ZFS1 13XNK0 13ZFS1 13XNK0 WnFm1 1bzOg0 WnFm1 1e7960 TQkw1 1e7960 TQkw1 1e7960 WnFm1 1bzOg0 WnFm1 1bzOg0 WnFm1 1e7960 TQkw1 1e7960 TQkw1 1e7960 WnFm1 1bzOg0 WnFm1 1bzOg0 WnFm1 1bzOg0 WnFm1 1e7960 TQkw1 1e7960 TQkw1 1e7960 WnFm1 1bzOg0 WnFm1 27Wxy2 1e7961 TQkw2 1e7961 TQkw2 1e7961|-21600,-18000,3.2.0/7200,11.1.0/7200",
  "America/Nuuk|-12416|-10800,-7200|-1Q6Dmw0 2c1sic1 11nEI0 13YJO1 13YJO0 13YJO1 13YJO0 13YJO1 13YJO0 13YJO1 16w4E0 13YJO1 13YJO0 13YJO1 13YJO0 13YJO1 13YJO0 13YJO1 13YJO0 13YJO1 13YJO0 13YJO1 16w4E0 13YJO1 13YJO0 13YJO1 13YJO0 13YJO1 13YJO0 13YJO1 13YJO0 13YJO1 13YJO0 16w4E1 1e85a0 TPos1 1e85a0 TPos1 1e85a0 TPos1 1gFq00 Ri3C1 1gFq00 Ri3C1 1gFq00 TPos1 1e85a0 TPos1 1e85a0 TPos1 1gFq00 Ri3C1 1gFq00 Ri3C1 1gFq00 Ri3C1 1gFq00 TPos1 1e85a0 TPos1 1e85a0 TPos1 1gFq00 Ri3C1 1gFq00 Ri3C1 1gFq00 TPos1 1e85a0 TPos1 1e85a0 TPos1 1e85a0 TPos1 1gFq00 Ri3C1 1gFq00 Ri3C1 1gFq00 TPos1 1e85a0 TPos1 1e85a0 TPos1 1gFq00 Ri3C1 1gFq00 Ri3C1|-7200,-3600,3.5.0/-3600,10.5.0/0",
  "America/Ojinaga|-25060|-25200,-21600,-18000|-1EvGXS0 bBYv61 7kAHC0 Yc361 TOso0 14m9q1 2cIAus2 1bzOg1 WnFm2 1bzOg1 27YpG0 WnFm1 1e7960 TQkw1 1e7960 16x0I1 Rh7y0 16x0I1 1bzOg0 WnFm1 1bzOg0 WnFm1 1e7960 TQkw1 1e7960 TQkw1 1e7960 TQkw1 1e7960 WnFm1 1bzOg0 WnFm1 1bzOg0 OLEQ1 1ogus0 JGZa1 1ogus0 JGZa1 1ogus0 JGZa1 1ogus0 JGZa1 1ogus0 JGZa1 1ogus0 Mek01 1ogus0 JGZa1 1ogus0 JGZa1 1ogus0 JGZa1 1ogus0 JGZa1 1ogus0 Mek01 1ogus0 JGZa1|-21600,-18000,3.2.0/7200,11.1.0/7200",
  "America/Panama|-19088|-19176,-18000|-2KQyqs0 D5u0o1|",
  "America/Paramaribo|-13240|-13252,-13236,-12600,-10800|-220n0c0 PfTLm1 mXh4I2 1liaOw3|",
  "America/Phoenix|-26898|-25200,-21600|-2XUXfi0 1bnUha1 1e7960 TQkw1 1e7960 LBHj21 42swI0 x0iY1 14khi0 MdqJe1 13XNK0|",
  "America/Port-au-Prince|-17360|-17340,-18000,-14400|-2KQySk0 VNnOI1 2hyz6k2 11qsU1 13ZFS2 13XNK1 13ZFS2 13XNK1 13ZFS2 13XNK1 13ZFS2 13XNK1 WoBq2 1e85a1 TPos2 1e85a1 TPos2 1e85a1 WmJi2 1bAKk1 WmJi2 1bAKk1 WmJi2 1e85a1 TPos2 1e85a1 TPos2 1e85a1 WmJi2 1bAKk1 WmJi2 1bAKk1 fSBtm2 1e7961 TQkw2 1e7961 bsAV22 1ogus1 JGZa2 1ogus1 JGZa2 1ogus1 JGZa2 1ogus1 2UbNC2|-18000,-14400,3.2.0/7200,11.1.0/7200",
  "America/Porto_Velho|-15336|-14400,-10800|-1VB27m0 BUMfm1 13r1u0 1556w1 13eQE0 zB4oE1 NiOA0 1l18A1 HQJi0 1qtdS1 IdcQ0 1qtdS1 wBXi0 n0yiY1 u4Cs0 1XP4k1 lnbi0 1qPHq1 wBXi0 1qPHq1 HufK0 1qPHq1 HQJi0 BK7iU1 McrS0 1jdGU1 EArm0 1tJvO1 C36w0|",
  "America/Puerto_Rico|-15865|-14400,-10800|-2r7AuX0 1u2kkL1 7hILm0|",
  "America/Punta_Arenas|-17020|-16965,-18000,-14400,-10800|-2KQyXO0 GL9gt1 dP0V50 4Gntz2 1IzrR0 hrMNL2 1fcQr1 TtQY2 1eQ6c1 TtQY2 1eQ6c1 TtQY2 1eQ6c1 TtQY2 1fczK1 TtQY2 kOzIc1 m80w2 9XJao1 iuiY2 JOKxa3 Rh7y2 1oimA3 JF722 194ly3 TOso2 1e91e3 TOso2 1gGm43 Rh7y2 1bBGo3 WlNe2 1gGm43 Rh7y2 1gGm43 TOso2 1e91e3 TOso2 1e91e3 TOso2 1gGm43 Rh7y2 1gGm43 Rh7y2 1gGm43 TOso2 1e91e3 TOso2 1e91e3 TOso2 1e91e3 TOso2 1gGm43 Rh7y2 1gGm43 Rh7y2 1gGm43 13XNK2 13ZFS3 TOso2 1e91e3 TOso2 1gGm43 Rh7y2 16x0I3 11qsU2 1gGm43 TOso2 1e91e3 TOso2 1e91e3 TOso2 1e91e3 TOso2 1gGm43 Rh7y2 1gGm43 YT842 194ly3 TOso2 194ly3 16v8A2 16x0I3 TOso2 1gGm43 Rh7y2 1gGm43 Rh7y2 1gGm43 Rh7y2 1gGm43 TOso2 1e91e3 TOso2 1e91e3 TOso2 1gGm43 Rh7y2 1gGm43 YT842 194ly3 TOso2 1e91e3 11qsU2 16x0I3 1e7962 C4YE3 1tla82 JGZa3 1ogus2 Mek03 1lJ9C2 Mek03 3BiDK2 x0iY3|",
  "America/Rankin_Inlet|0|-21600,-18000|-rLgPK0 wJxqo1 13XNK0 13ZFS1 13XNK0 13ZFS1 13XNK0 13ZFS1 13XNK0 13ZFS1 16v8A0 11sl21 16v8A0 13ZFS1 13XNK0 13ZFS1 13XNK0 13ZFS1 13XNK0 13ZFS1 13XNK0 13ZFS1 16v8A0 11sl21 16v8A0 13ZFS1 13XNK0 13ZFS1 13XNK0 13ZFS1 13XNK0 WnFm1 1bzOg0 WnFm1 1e7960 TQkw1 1e7960 TQkw1 1e7960 WnFm1 1bzOg0 WnFm1 1bzOg0 WnFm1 1e7960 TQkw1 1e7960 TQkw1 1e7960 WnFm1 1bzOg0 WnFm1 1bzOg0 WnFm1 1bzOg0 WnFm1 1e7960 TQkw1 3m4CI0 WnFm1 1bzOg0 WnFm1 1bzOg0 WnFm1 1e7960 TQkw1 1e7960 TQkw1 1e7960|-21600,-18000,3.2.0/7200,11.1.0/7200",
  "America/Recife|-8376|-10800,-7200|-1VB3VC0 BUN7y1 13r1u0 1556w1 13eQE0 zB4oE1 NiOA0 1l18A1 HQJi0 1qtdS1 IdcQ0 1qtdS1 wBXi0 n0yiY1 u4Cs0 1XP4k1 lnbi0 1qPHq1 wBXi0 1qPHq1 HufK0 1qPHq1 HQJi0 BK7iU1 McrS0 1jdGU1 EArm0 1tJvO1 C36w0 1tn2g1 C36w0 1vUn61 H7Mc0 kAsZW1 Rh7y0 1jdGU1 2woM0 27YpG1 JF720|",
  "America/Regina|-25116|-25200,-21600|-2dowiU0 qWy0s1 192tq0 oB8401 TOso0 1e91e1 TOso0 1e91e1 TOso0 1gGm41 Rh7y0 1gGm41 TOso0 5mrXW1 13XNK0 13ZFS1 11qsU0 16x0I1 13XNK0 16x0I1 13XNK0 13ZFS1 13XNK0 Hy001 7LMrK0 194ly1 13XNK0 194ly1 TOso0 1e91e1 TOso0 1e91e1 TOso0 1gGm41 Rh7y0 1gGm41 TOso0 1e91e1 TOso0 1e91e1 TOso0 1e91e1 TOso0 1e91e1 TOso0 1gGm41 TOso0 1e91e1 TOso0 3m6uQ1 13XNK0 13ZFS1|",
  "America/Resolute|0|-21600,-18000|-LHQti0 QG73W1 13XNK0 13ZFS1 13XNK0 13ZFS1 13XNK0 13ZFS1 13XNK0 13ZFS1 16v8A0 11sl21 16v8A0 13ZFS1 13XNK0 13ZFS1 13XNK0 13ZFS1 13XNK0 13ZFS1 13XNK0 13ZFS1 16v8A0 11sl21 16v8A0 13ZFS1 13XNK0 13ZFS1 13XNK0 13ZFS1 13XNK0 WnFm1 1bzOg0 WnFm1 1e7960 TQkw1 1e7960 TQkw1 1e7960 WnFm1 1bzOg0 WnFm1 1bzOg0 WnFm1 1e7960 TQkw1 1e7960 TQkw1 1e7960 WnFm1 1bzOg0 WnFm1 1bzOg0 WnFm1 1bzOg0 WnFm1 1e7960 TQkw1 3m4CI0 WnFm1 1bzOg0 WnFm1 1bzOg0 WnFm1 1e7960 TQkw1 1e7960 TQkw1 3oBXy0|-21600,-18000,3.2.0/7200,11.1.0/7200",
  "America/Rio_Branco|-16272|-18000,-14400|-1VB1Sg0 BUMWk1 13r1u0 1556w1 13eQE0 zB4oE1 NiOA0 1l18A1 HQJi0 1qtdS1 IdcQ0 1qtdS1 wBXi0 n0yiY1 u4Cs0 1XP4k1 lnbi0 1qPHq1 wBXi0 1qPHq1 HufK0 1qPHq1 HQJi0 BK7iU1 McrS0 1jdGU1 EArm0 1tJvO1 C36w0 HwiaI1 bulyw0|",
  "America/Santarem|-13128|-14400,-10800|-1VB2GY0 BUMOY1 13r1u0 1556w1 13eQE0 zB4oE1 NiOA0 1l18A1 HQJi0 1qtdS1 IdcQ0 1qtdS1 wBXi0 n0yiY1 u4Cs0 1XP4k1 lnbi0 1qPHq1 wBXi0 1qPHq1 HufK0 1qPHq1 HQJi0 BK7iU1 McrS0 1jdGU1 EArm0 1tJvO1 C36w0 HwiaI1|",
  "America/Santiago|-16965|-18000,-16965,-14400,-10800|-245pHl0 dP0V51 4Gntz2 1IzrR1 hrMNL2 1fcQr0 TtQY2 1eQ6c0 TtQY2 1eQ6c0 TtQY2 1eQ6c0 TtQY2 1fczK0 TtQY2 kOzIc0 m80w2 8rtfO3 givC2 1fXoY0 iuiY2 JOKxa3 Rh7y2 1oimA3 JF722 194ly3 TOso2 1e91e3 TOso2 1gGm43 Rh7y2 1bBGo3 WlNe2 1gGm43 Rh7y2 1gGm43 TOso2 1e91e3 TOso2 1e91e3 TOso2 1gGm43 Rh7y2 1gGm43 Rh7y2 1gGm43 TOso2 1e91e3 TOso2 1e91e3 TOso2 1e91e3 TOso2 1gGm43 Rh7y2 1gGm43 Rh7y2 1gGm43 13XNK2 13ZFS3 TOso2 1e91e3 TOso2 1gGm43 Rh7y2 16x0I3 11qsU2 1gGm43 TOso2 1e91e3 TOso2 1e91e3 TOso2 1e91e3 TOso2 1gGm43 Rh7y2 1gGm43 YT842 194ly3 TOso2 194ly3 16v8A2 16x0I3 TOso2 1gGm43 Rh7y2 1gGm43 Rh7y2 1gGm43 Rh7y2 1gGm43 TOso2 1e91e3 TOso2 1e91e3 TOso2 1gGm43 Rh7y2 1gGm43 YT842 194ly3 TOso2 1e91e3 11qsU2 16x0I3 1e7962 C4YE3 1tla82 JGZa3 1ogus2 Mek03 1lJ9C2 Mek03 3BiDK2 x0iY3 1AXaE2 x0iY3 1AXaE2 x0iY3 1ogus2 TQkw3 1e7962 TQkw3 1e7962 TQkw3 1e7962 WnFm3|-14400,-10800,9.1.6/86400,4.1.6/86400",
  "America/Santo_Domingo|-16776|-16800,-18000,-14400,-16200|-2KQz1K0 1umgVW1 19Icpy2 HQJi1 5G1Hy3 GLLG1 1rbHW3 vwZG1 1EXOM3 tIBW1 1EeRG3 urz21 1DvUA3 uO2A1 1D9r22 TxE2c1 cGGc2|",
  "America/Sao_Paulo|-11188|-10800,-7200|-1VB3cg0 BUMoc1 13r1u0 1556w1 13eQE0 zB4oE1 NiOA0 1l18A1 HQJi0 1qtdS1 IdcQ0 1qtdS1 wBXi0 mJvUc1 L71e0 1XP4k1 lnbi0 1qPHq1 wBXi0 1qPHq1 HufK0 1qPHq1 HQJi0 BK7iU1 McrS0 1jdGU1 EArm0 1tJvO1 C36w0 1tn2g1 C36w0 1vUn61 H7Mc0 1tn2g1 H7Mc0 1qPHq1 EArm0 1vUn61 zvLG0 1vUn61 JF720 1oimA1 JF720 1oimA1 H7Mc0 1oimA1 McrS0 1m7vi1 QUE00 1jdGU1 McrS0 1jdGU1 Rh7y0 1jdGU1 McrS0 1oimA1 JF720 1vUn61 C36w0 1qPHq1 H7Mc0 1wDkc1 DRug0 1oimA1 JF720 1vUn61 EArm0 1lL1K1 JF720 1qPHq1 H7Mc0 1qPHq1 JF720 1oimA1 JF720 1oimA1 McrS0 1oimA1 H7Mc0 1qPHq1 H7Mc0 1qPHq1 JF720 1oimA1 JF720 1oimA1 JF720 1oimA1 JF720 1vUn61 C36w0|",
  "America/Scoresbysund|-5272|-7200,-3600,0|-1Q6FdK0 2c1tdm1 11roY0 13WRG2 13XNK1 13YJO2 13YJO1 13YJO2 13YJO1 13YJO2 16w4E1 13YJO2 13YJO1 13YJO2 13YJO1 13YJO2 13YJO1 13YJO2 13YJO1 13YJO2 13YJO1 13YJO2 16w4E1 13YJO2 13YJO1 13YJO2 13YJO1 13YJO2 13YJO1 13YJO2 13YJO1 13YJO2 13YJO1 16w4E2 1e85a1 TPos2 1e85a1 TPos2 1e85a1 TPos2 1gFq01 Ri3C2 1gFq01 Ri3C2 1gFq01 TPos2 1e85a1 TPos2 1e85a1 TPos2 1gFq01 Ri3C2 1gFq01 Ri3C2 1gFq01 Ri3C2 1gFq01 TPos2 1e85a1 TPos2 1e85a1 TPos2 1gFq01 Ri3C2 1gFq01 Ri3C2 1gFq01 TPos2 1e85a1 TPos2 1e85a1 TPos2 1e85a1 TPos2 1gFq01 Ri3C2 1gFq01 Ri3C2 1gFq01 TPos2 1e85a1 TPos2 1e85a1 TPos2 1gFq01 Ri3C2 1gFq01 Ri3C2 1gFq01|-7200,-3600,3.5.0/-3600,10.5.0/0",
  "America/Sitka|53927|-32473,-28800,-25200,-32400|-3wgI1x0 1884U81 1qzn152 7LMrK1 OlmlG2 13XNK1 13ZFS2 13XNK1 13ZFS2 16v8A1 13ZFS2 13XNK1 13ZFS2 13XNK1 pois2 1Izba1 H9Ek2 1qNPi1 13ZFS2 16v8A1 11sl22 16v8A1 13ZFS2 13XNK1 13ZFS2 13XNK1 13ZFS2 13XNK1 13ZFS2 13XNK1 13ZFS2 16v8A1 11sl22 16v8A3 140BW1 13XNK3 13ZFS1 13XNK3 13ZFS1 13XNK3 WnFm1 1bzOg3 WnFm1 1e7963 TQkw1 1e7963 TQkw1 1e7963 WnFm1 1bzOg3 WnFm1 1bzOg3 WnFm1 1e7963 TQkw1 1e7963 TQkw1 1e7963 WnFm1 1bzOg3 WnFm1 1bzOg3 WnFm1 1bzOg3 WnFm1 1e7963 TQkw1 1e7963 TQkw1 1e7963 WnFm1 1bzOg3 WnFm1 1bzOg3 WnFm1 1e7963 TQkw1 1e7963 TQkw1 1e7963|-32400,-28800,3.2.0/7200,11.1.0/7200",
  "America/St_Johns|-12652|-9052,-12652,-12600,-9000,-5400|-1OCwni0 WIgM1 1dMxG0 192tq1 17d9C0 zSfe1 1xIKQ0 13XNK1 13ZFS0 13XNK1 16x0I0 11qsU1 16x0I0 11qsU1 16x0I0 11qsU1 16x0I0 11qsU1 16x0I0 13XNK1 13ZFS0 13XNK1 16x0I0 11qsU1 16x0I0 11qsU1 16x0I0 11qsU1 16x0I0 11qsU1 16x0I0 13XNK1 16x0I0 11qsU1 16x0I0 11qsU1 T8ju2 doGo3 11qsU2 195hC3 Rh7y2 1gGm43 Rh7y2 1gGm43 Rh7y2 1jdGU3 OJMI2 1jdGU3 Rh7y2 1gGm43 Rh7y2 1gGm43 7eOWY2 1jdGU3 Rh7y2 1gGm43 Rh7y2 1gGm43 Rh7y2 1gGm43 Rh7y2 1jdGU3 Rh7y2 1bBGo3 TOso2 1e91e3 TOso2 1e91e3 TOso2 1e91e3 TOso2 1e91e3 TOso2 1gGm43 TOso2 1e91e3 TOso2 1e91e3 TOso2 1e91e3 TOso2 1e91e3 16v8A2 13ZFS3 13XNK2 13ZFS3 13XNK2 13ZFS3 13XNK2 13ZFS3 13XNK2 13ZFS3 16v8A2 11sl23 16v8A2 13ZFS3 13XNK2 13ZFS3 13XNK2 13ZFS3 13XNK2 13ZFS3 13XNK2 13ZFS3 16v8A2 13ZFS3 13XNK2 13ZFS3 13XNK2 13ZFS3 13XNK2 13ZFS3 13XNK2 13ZFS3 16v8A2 11sl23 16v8A2 13ZFS3 13XNK2 13ZFS3 13XNK2 13ZFS3 13XNK2 13ZFS3 13XNK2 13ZFS3 16v8A2 11sl23 16v8A2 13ZFS3 13XNK2 13ZFS3 13XNK2 13ZFS3 13XNK2 WlOc3 1bzOg2 WnFm4 1e6d22 TRgA3 1e7962 TQkw3 1e7962 WnFm3 1bzOg2 WnFm3 1bzOg2 WnFm3 1e7962 TQkw3 1e7962 TQkw3 1e7962 WnFm3 1bzOg2 WnFm3 1bzOg2 WnFm3 1bzOg2 WnFm3 1e7962 TQkw3 1e7962 TQkw3 1e7962 WnFm3 1bzOg2 WnFm3 1bzOg2 WnFm3 1e7962 TQkw3 1e7962 TQkw3 1e7962 Mek03 1ogus2 JGZa3 1ogus2 JGZa3 1ogus2 Mek03 1ogus2 JGZa3|-12600,-9000,3.2.0/7200,11.1.0/7200",
  "America/Swift_Current|-25880|-25200,-21600|-2dow6A0 qWxO81 192tq0 NJEME1 7LMrK0 1e91e1 YT840 194ly1 TOso0 1e91e1 TOso0 1e91e1 TOso0 gcW2c1 13XNK0 3bX9u1 13XNK0 13ZFS1 TOso0 1gGm41 Rh7y0 mDlNS1|",
  "America/Tegucigalpa|-20932|-21600,-18000|-1G7p8w0 2h8E1K1 Rh7y0 1gGm41 Rh7y0 BC8OQ1 xkUo0|",
  "America/Thule|-16508|-14400,-10800|-1Q6Ciw0 2ztxKQ1 13XNK0 13ZFS1 13XNK0 16x0I1 1e7960 TQkw1 1e7960 TQkw1 1e7960 WnFm1 1bzOg0 WnFm1 1bzOg0 WnFm1 1bzOg0 WnFm1 1e7960 TQkw1 1e7960 TQkw1 1e7960 WnFm1 1bzOg0 WnFm1 1bzOg0 WnFm1 1e7960 TQkw1 1e7960 TQkw1 1e7960|-14400,-10800,3.2.0/7200,11.1.0/7200",
  "America/Tijuana|-28084|-25200,-28800|-1EvGXS0 4gDUk1 7llwQ0 7kAHC1 NGec0 13XNK1 mz05i0 7BD6o1 568wg0 1EWpG1 bgCfS0 TPos1 1e85a0 TPos1 1gFq00 TPos1 1e85a0 TPos1 1e85a0 TPos1 1e85a0 TPos1 1e85a0 TPos1 xh9bW0 16v8A1 11sl20 16v8A1 13ZFS0 13XNK1 13ZFS0 13XNK1 13ZFS0 13XNK1 13ZFS0 13XNK1 13ZFS0 16v8A1 11sl20 16v8A1 13ZFS0 13XNK1 13ZFS0 13XNK1 13ZFS0 13XNK1 WnFm0 1bzOg1 WnFm0 1e7961 TQkw0 1e7961 TQkw0 1e7961 WnFm0 1bzOg1 WnFm0 1bzOg1 WnFm0 1e7961 TQkw0 1e7961 TQkw0 1e7961 WnFm0 1bzOg1 WnFm0 1bzOg1 WnFm0 1bzOg1 WnFm0 1e7961 TQkw0 1e7961 TQkw0 1e7961 WnFm0 1bzOg1 WnFm0 1bzOg1 WnFm0 1e7961 TQkw0 1e7961 TQkw0 1e7961 TQkw0 1e7961 WnFm0 1bzOg1 WnFm0 1bzOg1|-28800,-25200,3.2.0/7200,11.1.0/7200",
  "America/Toronto|-19052|-18000,-14400|-2AaAbG0 NIA161 192tq0 UasU1 1dL8A0 16ySQ1 Rffq0 1lMTS1 IzGo0 1pnNe1 JF720 1oimA1 JF720 1lL1K1 OJMI0 1jdGU1 OJMI0 1jdGU1 OJMI0 1jdGU1 Rh7y0 1gGm41 TOso0 1e91e1 TOso0 1e91e1 TOso0 1e91e1 TOso0 1gGm41 Rh7y0 1gGm41 TOso0 1e91e1 TOso0 1e91e1 TOso0 1e91e1 TOso0 1e91e1 TOso0 1e91e1 TOso0 1gGm41 Rh7y0 1gGm41 bA9bi0 1e91e1 TOso0 1e91e1 TOso0 1e91e1 TOso0 1e91e1 1gEtW0 TQkw1 1e7960 TQkw1 TOso0 1e91e1 TOso0 1e91e1 TOso0 1e91e1 TOso0 1e91e1 TOso0 1gGm41 TOso0 1e91e1 13XNK0 13ZFS1 13XNK0 13ZFS1 13XNK0 13ZFS1 16v8A0 13ZFS1 13XNK0 13ZFS1 13XNK0 13ZFS1 13XNK0 13ZFS1 13XNK0 13ZFS1 16v8A0 11sl21 16v8A0 13ZFS1 13XNK0 13ZFS1 13XNK0 13ZFS1 13XNK0 13ZFS1 13XNK0 13ZFS1 16v8A0 13ZFS1 13XNK0 13ZFS1 13XNK0 13ZFS1 13XNK0 13ZFS1 13XNK0 13ZFS1 16v8A0 11sl21 16v8A0 13ZFS1 13XNK0 13ZFS1 13XNK0 13ZFS1 13XNK0 13ZFS1 13XNK0 13ZFS1 16v8A0 11sl21 16v8A0 13ZFS1 13XNK0 13ZFS1 13XNK0 13ZFS1 13XNK0 WnFm1 1bzOg0 WnFm1 1e7960 TQkw1 1e7960 TQkw1 1e7960 WnFm1 1bzOg0 WnFm1 1bzOg0 WnFm1 1e7960 TQkw1 1e7960 TQkw1 1e7960 WnFm1 1bzOg0 WnFm1 1bzOg0 WnFm1 1bzOg0 WnFm1 1e7960 TQkw1 1e7960 TQkw1 1e7960 WnFm1 1bzOg0 WnFm1 1bzOg0 WnFm1 1e7960 TQkw1 1e7960 TQkw1 1e7960|-18000,-14400,3.2.0/7200,11.1.0/7200",
  "America/Vancouver|-29548|-28800,-25200|-2XFanO0 1bdd1q1 192tq0 NJEME1 7LMrK0 1e91e1 TOso0 1e91e1 TOso0 1e91e1 TOso0 1e91e1 TOso0 1gGm41 Rh7y0 1gGm41 TOso0 1e91e1 TOso0 1e91e1 TOso0 1e91e1 TOso0 1e91e1 TOso0 1gGm41 TOso0 1e91e1 TOso0 1e91e1 TOso0 1e91e1 TOso0 1e91e1 TOso0 1gGm41 Rh7y0 1gGm41 13XNK0 13ZFS1 13XNK0 13ZFS1 13XNK0 13ZFS1 16v8A0 11sl21 16v8A0 13ZFS1 13XNK0 13ZFS1 13XNK0 13ZFS1 13XNK0 13ZFS1 13XNK0 13ZFS1 16v8A0 13ZFS1 13XNK0 13ZFS1 13XNK0 13ZFS1 13XNK0 13ZFS1 13XNK0 13ZFS1 16v8A0 11sl21 16v8A0 13ZFS1 13XNK0 13ZFS1 13XNK0 13ZFS1 13XNK0 13ZFS1 13XNK0 13ZFS1 16v8A0 11sl21 16v8A0 13ZFS1 13XNK0 13ZFS1 13XNK0 13ZFS1 13XNK0 WnFm1 1bzOg0 WnFm1 1e7960 TQkw1 1e7960 TQkw1 1e7960 WnFm1 1bzOg0 WnFm1 1bzOg0 WnFm1 1e7960 TQkw1 1e7960 TQkw1 1e7960 WnFm1 1bzOg0 WnFm1 1bzOg0 WnFm1 1bzOg0 WnFm1 1e7960 TQkw1 1e7960 TQkw1 1e7960 WnFm1 1bzOg0 WnFm1 1bzOg0 WnFm1 1e7960 TQkw1 1e7960 TQkw1 1e7960|-28800,-25200,3.2.0/7200,11.1.0/7200",
  "America/Whitehorse|-32412|-32400,-28800,-25200|-2o8Ona0 BGRWQ1 192tq0 1e91e1 VXry0 LzyjS1 7LMrK0 FMXeg2 16w4E0 H8Ig1 ufmjS2 13XNK1 13ZFS2 13XNK1 13ZFS2 16v8A1 11sl22 16v8A1 13ZFS2 13XNK1 13ZFS2 13XNK1 13ZFS2 13XNK1 WnFm2 1bzOg1 WnFm2 1e7961 TQkw2 1e7961 TQkw2 1e7961 WnFm2 1bzOg1 WnFm2 1bzOg1 WnFm2 1e7961 TQkw2 1e7961 TQkw2 1e7961 WnFm2 1bzOg1 WnFm2 1bzOg1 WnFm2 1bzOg1 WnFm2 1e7961 TQkw2 1e7961 TQkw2 1e7961 WnFm2 1bzOg1 WnFm2 1bzOg1 WnFm2 1e7961 TQkw2 1e7961 TQkw2 1e7961 Mek02 1ogus1 JGZa2 1ogus1 JGZa2 1ogus1 Mek02 1ogus1 JGZa2 1ogus1 JGZa2 1ogus1 JGZa2 1ogus1 JGZa2 1ogus1 JGZa2 1ogus1 Mek02 1ogus1 JGZa2 1ogus1 JGZa2 1ogus1 JGZa2 1ogus1 JGZa2|",
  "America/Winnipeg|-23316|-21600,-18000|-2Q6OfO0 ZrpwM1 Rh7y0 3m8mY1 192tq0 DCuhW1 McrS0 9kY2Q1 7LMrK0 1jdGU1 TOso0 194ly1 TOso0 1e91e1 TOso0 1e91e1 TOso0 1h2PC1 T5vi0 1evuM1 TOso0 1e91e1 TOso0 1e91e1 TOso0 1e91e1 TOso0 1e91e1 TOso0 1gGm41 TOso0 1e91e1 TOso0 1e91e1 TOso0 1e91e1 13XNK0 13ZFS1 TOso0 5wBji1 Rh7y0 5wBji1 16w4E0 13YJO1 13YJO0 13YJO1 13YJO0 13YJO1 13YJO0 13YJO1 13YJO0 13YJO1 16w4E0 13YJO1 13YJO0 13YJO1 13YJO0 13YJO1 13YJO0 13YJO1 13YJO0 13YJO1 16w4E0 11roY1 16w4E0 13YJO1 13YJO0 13YJO1 13YJO0 13YJO1 13YJO0 13YJO1 13YJO0 13YJO1 16w4E0 11roY1 16w4E0 13YJO1 13YJO0 13YJO1 13YJO0 13YJO1 13YJO0 WmJi1 1bAKk0 WmJi1 1e85a0 TPos1 1e85a0 TPos1 1e85a0 WmJi1 1bAKk0 WmJi1 1bAKk0 WmJi1 1e85a0 TPos1 1e85a0 TPos1 1e85a0 WmJi1 1bAKk0 WmJi1 1bAKk0 WmJi1 1bAKk0 WmJi1 1e85a0 TPos1 1e85a0 TPos1 1e85a0 WmJi1 1bAKk0 WmJi1 1bAKk0 WmJi1 1e85a0 TPos1 1e85a0 TPos1 1e7960|-21600,-18000,3.2.0/7200,11.1.0/7200",
  "America/Yakutat|52865|-33535,-32400,-28800|-3wgI1x0 1885bg1 1qznG12 7LMrK1 OlmlG2 13XNK1 13ZFS2 13XNK1 13ZFS2 16v8A1 13ZFS2 13XNK1 13ZFS2 13XNK1 pois2 1Izba1 H9Ek2 1qNPi1 13ZFS2 16v8A1 11sl22 16v8A1 13ZFS2 13XNK1 13ZFS2 13XNK1 13ZFS2 13XNK1 13ZFS2 13XNK1 13ZFS2 16v8A1 11sl22 16v8A1 13ZFS2 13XNK1 13ZFS2 13XNK1 13ZFS2 13XNK1 WnFm2 1bzOg1 WnFm2 1e7961 TQkw2 1e7961 TQkw2 1e7961 WnFm2 1bzOg1 WnFm2 1bzOg1 WnFm2 1e7961 TQkw2 1e7961 TQkw2 1e7961 WnFm2 1bzOg1 WnFm2 1bzOg1 WnFm2 1bzOg1 WnFm2 1e7961 TQkw2 1e7961 TQkw2 1e7961 WnFm2 1bzOg1 WnFm2 1bzOg1 WnFm2 1e7961 TQkw2 1e7961 TQkw2 1e7961|-32400,-28800,3.2.0/7200,11.1.0/7200"]

end JobQueue.ZoneTable
