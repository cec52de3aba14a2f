/-!
# Zone table: the Atlantic and Indian oceans

Recorded offset histories, one zone per entry, in the format read by `ZoneTable.parseLine`.
-/

namespace JobQueue.ZoneTable

/-- Zones of the Atlantic and Indian oceans. -/
def ocean : List String := [
  "Atlantic/Azores|-6160|-6872,-7200,-3600,0,3600|-2XFgt20 XNbQA1 9wTTO2 NjKE1 HvbO2 1kDIY1 NGec2 1kDIY1 NGec2 1kDIY1 O2HK2 1kDIY1 NGec2 1kDIY1 5lI4M2 ZZuM1 3h0T62 YU481 16w4E2 11roY1 193pu2 11roY1 193pu2 YU481 3h0T62 YU481 13YJO2 13YJO1 3etyg2 13YJO1 11roY2 16w4E1 193pu2 YU481 13YJO2 13YJO1 11roY2 16w4E1 193pu2 1gFq01 zwHK2 1jVHW1 13fMI2 14ldm1 W0fK2 fd4Y3 EBnq2 pois1 OKIM2 cFK83 MdnW2 mQXC1 MdnW2 fd4Y3 JG362 mQXC1 MdnW2 fd4Y3 JG362 mQXC1 WmJi2 13YJO1 141y02 13YJO1 13YJO2 13YJO1 13YJO2 13YJO1 13YJO2 13YJO1 13YJO2 16w4E1 13YJO2 13YJO1 13YJO2 13YJO1 13YJO2 13YJO1 13YJO2 13YJO1 13YJO2 16w4E1 13YJO2 13YJO1 13YJO2 13YJO1 13YJO2 13YJO1 13YJO2 13YJO1 13YJO2 13YJO1 13YJO2 16w4E1 13YJO2 13YJO1 13YJO2 13YJO1 13YJO2 13YJO1 13YJO2 y8nvi3 13YJO2 13YJO3 13YJO2 13YJO3 16w4E2 13YJO3 13YJO2 13YJO3 13YJO2 13YJO3 13YJO2 13YJO3 13YJO2 13YJO3 13YJO2 13YJO3 16w4E2 13YJO3 13YJO2 13YJO3 13YJO2 x0iY3 wYqQ4 tmBq3 AC8o2 13YJO3 13YJO2 13YJO3 13YJO2|-3600,0,3.5.0/0,10.5.0/3600",
  "Atlantic/Bermuda|-15558|-11958,-15558,-14400,-10800|-1ODgrE0 12vTy1 18HS00 UaVW1 o7sJi2 pGzlo3 1Duvu2 TQkw3 1jbOM2 Mek03 1ogus2 JGZa3 1ogus2 3h1Pa3 H7Mc2 1tn2g3 C36w2 1vUn63 C36w2 1yrHW3 zvLG2 1yrHW3 zvLG2 1yrHW3 C36w2 7Wk8M3 TOso2 BmUNO3 13XNK2 13ZFS3 13XNK2 13ZFS3 16v8A2 11sl23 16v8A2 13ZFS3 13XNK2 13ZFS3 13XNK2 13ZFS3 13XNK2 13ZFS3 13XNK2 13ZFS3 16v8A2 11sl23 16v8A2 13ZFS3 13XNK2 13ZFS3 13XNK2 13ZFS3 13XNK2 WnFm3 1bzOg2 WnFm3 1e7962 TQkw3 1e7962 TQkw3 1e7962 WnFm3 1bzOg2 WnFm3 1bzOg2 WnFm3 1e7962 TQkw3 1e7962 TQkw3 1e7962 WnFm3 1bzOg2 WnFm3 1bzOg2 WnFm3 1bzOg2 WnFm3 1e7962 TQkw3 1e7962 TQkw3 1e7962 WnFm3 1bzOg2 WnFm3 1bzOg2 WnFm3 1e7962 TQkw3 1e7962 TQkw3 1e7962|-14400,-10800,3.2.0/7200,11.1.0/7200",
  "Atlantic/Canary|-3696|-3600,0,3600|-1Eaorm0 Qv8bu1 19A0ve2 11sl21 13YJO2 13YJO1 13YJO2 13YJO1 13YJO2 13YJO1 13YJO2 16w4E1 13YJO2 13YJO1 13YJO2 13YJO1 13YJO2 13YJO1 13YJO2 13YJO1 13YJO2 13YJO1 13YJO2 16w4E1 13YJO2 13YJO1 13YJO2 13YJO1 13YJO2 13YJO1 13YJO2 13YJO1 13YJO2 13YJO1|0,3600,3.5.0/3600,10.5.0/7200",
  "Atlantic/Cape_Verde|-5644|-7200,-3600|-1ZS4Cs0 13uEfu1 6Fgn60 12j6jm1|",
  "Atlantic/Faroe|-1624|0,3600|-28m7B60 2wmiVi1 13YJO0 13YJO1 13YJO0 13YJO1 13YJO0 13YJO1 16w4E0 13YJO1 13YJO0 13YJO1 13YJO0 13YJO1 13YJO0 13YJO1 13YJO0 13YJO1 13YJO0 13YJO1 16w4E0 13YJO1 13YJO0 13YJO1 13YJO0 13YJO1 13YJO0 13YJO1 13YJO0 13YJO1 13YJO0|0,3600,3.5.0/3600,10.5.0/7200",
  "Atlantic/Madeira|-4056|-3600,0,3600|-1ZS5yw0 9wTTO1 NjKE0 HvbO1 1kDIY0 NGec1 1kDIY0 NGec1 1kDIY0 O2HK1 1kDIY0 NGec1 1kDIY0 5lI4M1 ZZuM0 3h0T61 YU480 16w4E1 11roY0 193pu1 11roY0 193pu1 YU480 3h0T61 YU480 13YJO1 13YJO0 3etyg1 13YJO0 11roY1 16w4E0 193pu1 YU480 13YJO1 13YJO0 11roY1 16w4E0 193pu1 1gFq00 zwHK1 1jVHW0 13fMI1 14ldm0 W0fK1 fd4Y2 EBnq1 pois0 OKIM1 cFK82 MdnW1 mQXC0 MdnW1 fd4Y2 JG361 mQXC0 MdnW1 fd4Y2 JG361 mQXC0 WmJi1 13YJO0 141y01 13YJO0 13YJO1 13YJO0 13YJO1 13YJO0 13YJO1 13YJO0 13YJO1 16w4E0 13YJO1 13YJO0 13YJO1 13YJO0 13YJO1 13YJO0 13YJO1 13YJO0 13YJO1 16w4E0 13YJO1 13YJO0 13YJO1 13YJO0 13YJO1 13YJO0 13YJO1 13YJO0 13YJO1 13YJO0 13YJO1 16w4E0 13YJO1 13YJO0 13YJO1 13YJO0 13YJO1 13YJO0 13YJO1 yaUQ82 11roY1 13YJO2 13YJO1 13YJO2 16w4E1 13YJO2 13YJO1 13YJO2 13ZFS1 13YJO2 13YJO1 13YJO2 13YJO1 13YJO2 13YJO1 13YJO2 16w4E1 13YJO2 13YJO1 13YJO2 13YJO1 13YJO2 13YJO1 13YJO2 13YJO1 13YJO2 13YJO1|0,3600,3.5.0/3600,10.5.0/7200",
  "Atlantic/South_Georgia|-8768|-7200|-2KQB6U0|",
  "Atlantic/Stanley|-13884|-14400,-10800,-7200|-1Zsj2I0 Sy0de1 11qsU0 16x0I1 11qsU0 194ly1 11qsU0 16x0I1 11qsU0 16x0I1 11qsU0 16x0I1 yMOA0 1o813O1 Rh7y2 1gEtW1 OLEQ2 1jbOM1 25r4Q0 RiZG1 1gEtW0 RiZG1 1gEtW0 RiZG1 1gEtW0 RiZG1 1jbOM0 OLEQ1 1jbOM0 RiZG1 1gEtW0 RiZG1 1gEtW0 RiZG1 1gEtW0 RiZG1 1gEtW0 RiZG1 1jbOM0 RiZG1 1gEtW0 RiZG1 1gEtW0 RiZG1 1gEtW0 RiZG1 1gEtW0 RiZG1 1gGm40 OLEQ1 1lJ9C0 Mek01 1lJ9C0 OLEQ1 1jbOM0 OLEQ1 1jbOM0 OLEQ1 1jbOM0 OLEQ1 1jbOM0 OLEQ1 1lJ9C0 OLEQ1 1jbOM0 OLEQ1 1jbOM0 OLEQ1|",
  "Indian/Chagos|17380|18000,21600|-2ay9gg0 344Cfq1|",
  "Indian/Maldives|17640|18000|-lmnyM0|",
  "Indian/Mauritius|13800|14400,18000|-2ay8kw0 2BPfRu1 WIgM0 SG1na1 TOso0|"]

end JobQueue.ZoneTable
