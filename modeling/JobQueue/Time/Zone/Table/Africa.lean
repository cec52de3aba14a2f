/-!
# Zone table: Africa

Recorded offset histories, one zone per entry, in the format read by `ZoneTable.parseLine`.
-/

namespace JobQueue.ZoneTable

/-- Zones of Africa. -/
def africa : List String := [
  "Africa/Abidjan|-968|0|-1ZS6eY0|",
  "Africa/Algiers|732|561,0,3600,7200|-2Ihumo0 GG4Er1 bf7Gx2 DvWM1 114Vq2 19pT21 TsUU2 1euyI1 QVA42 1h1Ty1 LQUo2 1tm6c1 PtFS2 zTbi1 CUYa42 oFlm1 zyzS2 8LpsY3 168F22 11OOA3 YvIs2 2fVXG1 jSXO82 fo9ri1 h9EiY2 TPos1 bYsZa2 1SJsA3 13ZFS2 2kChG1 13ZFS2 16x0I1 13XNK2|",
  "Africa/Bissau|-3740|-3600,0|-1ZS5yw0 2ay4JW1|",
  "Africa/Cairo|7509|7200,10800|-2nTKK10 1mYdQ91 sgeI0 194ly1 TOso0 19qP61 1dKFy0 UzhC1 1fz3i0 T7nq1 1fz3i0 Yc361 1a7U40 oBwpG1 QbGU0 1eRYk1 TrYQ0 1eSUo1 T7nq0 1fz3i1 T7nq0 1fczK1 T7nq0 1fczK1 T7nq0 1fczK1 T7nq0 1fz3i1 T7nq0 1fczK1 T7nq0 1fczK1 TtQY0 1eQ6c1 TtQY0 1fczK1 TtQY0 1eQ6c1 TtQY0 1eQ6c1 TtQY0 1eQ6c1 TtQY0 1fczK1 TtQY0 1eQ6c1 TtQY0 1eQ6c1 TtQY0 1eQ6c1 TtQY0 1fczK1 TtQY0 1eQ6c1 TtQY0 1eQ6c1 TtQY0 1eQ6c1 TtQY0 1fczK1 TtQY0 1eQ6c1 TtQY0 1JEBO1 oFlm0 1EWpG1 tnxu0 1fczK1 TtQY0 1eQ6c1 TtQY0 1eQ6c1 TtQY0 1eQ6c1 TtQY0 1fczK1 TtQY0 1gEtW1 RFte0 1eQ6c1 TtQY0 1eQ6c1 TtQY0 1fczK1 TtQY0 1eQ6c1 TtQY0 1eQ6c1 TtQY0 1dJJu1 TOso0 1e91e1 TOso0 1e91e1 TOso0 1e91e1 TOso0 1gGm41 TOso0 1e91e1 TOso0 1e91e1 TOso0 1e91e1 TOso0 1e91e1 TOso0 1gGm41 TOso0 1e91e1 TOso0 1e91e1 Rh7y0 1gGm41 McrS0 1lL1K1 JF720 1oimA1 H7Mc0 1tn2g1 Bk9q0 aTew1 7B4s0 7JDsA1 fd4Y0 cHCg1 khKE0 ikTvO1|7200,10800,4.5.5/0,10.5.4/86400",
  "Africa/Casablanca|-1820|0,3600|-1VZnz60 TgAe01 oDte0 zxDO1 ceKyI0 9JYVG1 OJMI0 zrsLC1 Hj0Y0 en6o01 oZWM0 3yqHu1 xkUo0 1AZ2M1 Smyc0 1rcaY1 nbz20 bZypO1 3PNHG0 LS0KI1 xkUo0 1AZ2M1 tlFm0 1u5Zm1 zvLG0 1oimA1 H7Mc0 1B0UU1 tJ4Y0 beM01 eRxu0 1e85a1 pnmo0 ckcE1 shaM0 TPos1 wCTm0 cGGc1 uOvC0 TPos1 rUHe0 cGGc1 zwHK0 TPos1 pnmo0 cGGc1 EBnq0 Ri3C1 kiGI0 fe121 H8Ig0 Ri3C1 hLlS0 cGGc1 1SJsA0 cGGc1 1Qc7K0 fe121 1Qc7K0 cGGc1 1Qc7K0 fe121 1Qc7K0 cGGc1 1SJsA0 cGGc1 1Qc7K0 fe121 1Qc7K0 cGGc1 1SJsA0 cGGc1 1Qc7K0 fe121 1Qc7K0 cGGc1 1Qc7K0 fe121 1Qc7K0 cGGc1 1SJsA0 cGGc1 1Qc7K0 fe121 1Qc7K0 cGGc1 1Qc7K0 fe121 1Qc7K0 fe121 1Qc7K0 cGGc1 1Qc7K0 fe121 1Qc7K0 cGGc1 1SJsA0 cGGc1 1Qc7K0 fe121 1Qc7K0 cGGc1 1Qc7K0 fe121 1Qc7K0 fe121 1Qc7K0 cGGc1 1Qc7K0 fe121 1Qc7K0 cGGc1 1SJsA0 cGGc1 1Qc7K0 fe121 1Qc7K0 cGGc1 1Qc7K0 fe121 1Qc7K0 fe121 1Qc7K0 cGGc1 1Qc7K0 fe121 1Qc7K0 cGGc1 1SJsA0 cGGc1 1Qc7K0 fe121 1Qc7K0 cGGc1 1Qc7K0 fe121 1Qc7K0 fe121 1Qc7K0 cGGc1 1Qc7K0 fe121 1Qc7K0 cGGc1 1SJsA0 cGGc1 1Qc7K0 fe121 1Qc7K0 cGGc1 1Qc7K0 fe121 1Qc7K0 fe121 1Qc7K0 cGGc1 1Qc7K0 fe121 1Qc7K0 cGGc1 1SJsA0 cGGc1 1Qc7K0 fe121 1Qc7K0 cGGc1 1Qc7K0 fe121 1Qc7K0 fe121 1Qc7K0 cGGc1 1Qc7K0 fe121 1Qc7K0 cGGc1 1SJsA0 cGGc1 1Qc7K0 fe121 1Qc7K0 cGGc1 1Qc7K0 fe121 1Qc7K0 cGGc1 1SJsA0 cGGc1 1Qc7K0 fe121 1Qc7K0 cGGc1 1SJsA0 cGGc1 1Qc7K0 fe121|",
  "Africa/Ceuta|-1276|0,3600,7200|-2nmmWs0 B2AeY1 TOso0 bNAGI1 100qQ0 3gZX21 YV0c0 16v8A1 11sl20 193pu1 11roY0 1kyjGU1 Hj0Y0 en6o01 oZWM0 3yqHu1 xkUo0 1AZ2M1 Smyc0 1rcaY1 nbz20 bZypO1 4lJw42 13YJO1 13YJO2 13YJO1 13YJO2 13YJO1 13YJO2 13YJO1 13YJO2 16w4E1 13YJO2 13YJO1 13YJO2 13YJO1 13YJO2 13YJO1 13YJO2 13YJO1 13YJO2 13YJO1|3600,7200,3.5.0/7200,10.5.0/10800",
  "Africa/El_Aaiun|-3168|-3600,0,3600|-1eSPOE0 1siQwg1 69ag2 xkUo1 1AZ2M2 Smyc1 1rcaY2 nbz21 11HmSc2 xkUo1 1AZ2M2 tlFm1 1u5Zm2 zvLG1 1oimA2 H7Mc1 1B0UU2 tJ4Y1 beM02 eRxu1 1e85a2 pnmo1 ckcE2 shaM1 TPos2 wCTm1 cGGc2 uOvC1 TPos2 rUHe1 cGGc2 zwHK1 TPos2 pnmo1 cGGc2 EBnq1 Ri3C2 kiGI1 fe122 H8Ig1 Ri3C2 hLlS1 cGGc2 1SJsA1 cGGc2 1Qc7K1 fe122 1Qc7K1 cGGc2 1Qc7K1 fe122 1Qc7K1 cGGc2 1SJsA1 cGGc2 1Qc7K1 fe122 1Qc7K1 cGGc2 1SJsA1 cGGc2 1Qc7K1 fe122 1Qc7K1 cGGc2 1Qc7K1 fe122 1Qc7K1 cGGc2 1SJsA1 cGGc2 1Qc7K1 fe122 1Qc7K1 cGGc2 1Qc7K1 fe122 1Qc7K1 fe122 1Qc7K1 cGGc2 1Qc7K1 fe122 1Qc7K1 cGGc2 1SJsA1 cGGc2 1Qc7K1 fe122 1Qc7K1 cGGc2 1Qc7K1 fe122 1Qc7K1 fe122 1Qc7K1 cGGc2 1Qc7K1 fe122 1Qc7K1 cGGc2 1SJsA1 cGGc2 1Qc7K1 fe122 1Qc7K1 cGGc2 1Qc7K1 fe122 1Qc7K1 fe122 1Qc7K1 cGGc2 1Qc7K1 fe122 1Qc7K1 cGGc2 1SJsA1 cGGc2 1Qc7K1 fe122 1Qc7K1 cGGc2 1Qc7K1 fe122 1Qc7K1 fe122 1Qc7K1 cGGc2 1Qc7K1 fe122 1Qc7K1 cGGc2 1SJsA1 cGGc2 1Qc7K1 fe122 1Qc7K1 cGGc2 1Qc7K1 fe122 1Qc7K1 fe122 1Qc7K1 cGGc2 1Qc7K1 fe122 1Qc7K1 cGGc2 1SJsA1 cGGc2 1Qc7K1 fe122 1Qc7K1 cGGc2 1Qc7K1 fe122 1Qc7K1 fe122 1Qc7K1 cGGc2 1Qc7K1 fe122 1Qc7K1 cGGc2 1SJsA1 cGGc2 1Qc7K1 fe122 1Qc7K1 cGGc2 1Qc7K1 fe122 1Qc7K1 cGGc2 1SJsA1 cGGc2 1Qc7K1 fe122 1Qc7K1 cGGc2 1SJsA1 cGGc2 1Qc7K1 fe122|",
  "Africa/Johannesburg|6720|5400,7200,10800|-2Gmf7y0 nBSNG1 1mtN8c2 13XNK1 13ZFS2 13XNK1|",
  "Africa/Juba|7588|7200,10800|-1licXa0 1lZGgQ1 YwEw0 19qP61 YT840 19NiE1 YT840 194ly1 ZfBC0 18HS01 ZC5a0 18los1 ZYyI0 17YUU1 10HvO0 17fXO1 113Zm0 19qP61 YT840 194ly1 ZfBC0 18HS01 ZYyI0 17YUU1 10l2g0 17Crm1 10HvO0 17fXO1 113Zm0 19qP61 ZfBC0 18HS01 ZC5a0 ur8Oc1 IWTPa0|",
  "Africa/Khartoum|7808|7200,10800|-1lid0I0 1lZGko1 YwEw0 19qP61 YT840 19NiE1 YT840 194ly1 ZfBC0 18HS01 ZC5a0 18los1 ZYyI0 17YUU1 10HvO0 17fXO1 113Zm0 19qP61 YT840 194ly1 ZfBC0 18HS01 ZYyI0 17YUU1 10l2g0 17Crm1 10HvO0 17fXO1 113Zm0 19qP61 ZfBC0 18HS01 ZC5a0 ur8Oc1 C0dDG0|",
  "Africa/Lagos|815|0,815,1800,3600|-2dL6B90 6pkyb1 bKFJ72 c63NJ3|",
  "Africa/Maputo|7818|7200|-26h6oa0|",
  "Africa/Monrovia|-2588|-2670,0|-1KzJ4g0 1OSywW1|",
  "Africa/Nairobi|8836|9000,10800,9900|-27HVpW0 H4muM1 3et5e0 eVxc42 bUP361|",
  "Africa/Ndjamena|3612|3600,7200|-1ZS7qQ0 2kLpla1 QUE00|",
  "Africa/Sao_Tome|1616|-2205,0,3600|-2XFius0 XNbZS1 3EnUWY2 28jXa1|",
  "Africa/Tripoli|3164|3600,7200|-1IMOJe0 15SAsk1 sAQ80 3MBa01 updS0 3IWwo1 xHnW0 6plh61 N7yRW0 wDPq1 14khi0 13ZFS1 14khi0 14m9q1 14khi0 15O3C1 12vTy0 1556w1 13XNK0 13gIM1 14khi0 14m9q1 14khi0 13ZFS1 14khi0 1fXoY1 dGEKI0 15rA41 xk30k0 Oofe1|",
  "Africa/Tunis|2444|561,3600,7200|-33iM8s0 11Hmqv1 Y0zu12 1gFq01 zTbi2 3raes1 TQkw2 1ojiE1 Ri3C2 6S7m1 2UKs2 WIgM1 13ZFS2 166MU1 11QGI2 YuMo1 15wP2o2 Ri3C1 1hon62 TsUU1 kE4Pm2 G3hC1 13YJO2 13YJO1 1hon62 T6rm1 v9aMg2 T7nq1 12bi82 1gFq01 Ri3C2 1gFq01 TPos2 1e85a1|",
  "Africa/Windhoek|4104|5400,7200,10800,3600|-2Gmerm0 nBS7u1 1mtN8c2 13XNK1 1KV6Vi3 YAoM1 1e7963 TQkw1 1gEtW3 RiZG1 1gEtW3 TQkw1 1e7963 TQkw1 1e7963 TQkw1 1e7963 TQkw1 1e7963 TQkw1 1gEtW3 RiZG1 1gEtW3 TQkw1 1e7963 TQkw1 1e7963 TQkw1 1e7963 TQkw1 1e7963 TQkw1 1gEtW3 TQkw1 1e7963 TQkw1 1e7963 TQkw1 1e7963 TQkw1 1e7963 TQkw1 1gEtW3 RiZG1 1gEtW3 TQkw1 1e7963 TQkw1 1e7963 TQkw1 1e7963 TQkw1|"]

end JobQueue.ZoneTable
