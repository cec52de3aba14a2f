/-!
# Zone table: fixed offsets, Antarctica and the remaining names

Recorded offset histories, one zone per entry, in the format read by `ZoneTable.parseLine`.
-/

namespace JobQueue.ZoneTable

/-- Zones of fixed offsets, Antarctica and the remaining names. -/
def other : List String := [
  "Antarctica/Casey|0|28800,39600|-28jXa0 1p7xwA1 NYXu0 3whIk1 GoP60 9XJao1 2X5C00 1eaTm1 WiZ20 1aUBq1 Uvxm0 1e8681 WjU80 1bDzu1 WjU80 1bDzu1 VhhG0|",
  "Antarctica/Davis|0|25200,0,18000|-rGV7a0 gEJeU1 956H60 1oWjGE2 Qdz20 3u36M2 GqHe0|",
  "Antarctica/Macquarie|0|36000,39600,0|-2pQNY40 A7yRq1 11roY0 4j9n22 ZTQvS0 FGk5W1 13YJO0 1e85a1 MdnW0 1lK5G1 MdnW0 1lK5G1 OKIM0 1lK5G1 H8Ig0 1qOLm1 JG360 1ohqw1 JG360 1ohqw1 JG360 1ohqw1 MdnW0 1ohqw1 JG360 1ohqw1 JG360 1ohqw1 JG360 1ohqw1 JG360 1ohqw1 JG360 1ohqw1 TPos0 1gFq01 Ri3C0 1gFq01 JG360 1ohqw1 JG360 1ohqw1 JG360 1lK5G1 Ri3C0 1jcKQ1 Ri3C0 1jcKQ1 OKIM0 1jcKQ1 OKIM0 1jcKQ1 TPos0 16w4E1 11roY0 16w4E1 11roY0 16w4E1 11roY0 16w4E1 11roY0 16w4E1 13YJO0 16w4E1 11roY0 16w4E1 11roY0 16w4E1 11roY0 16w4E1 11roY0 TPos1 1e85a0 193pu1 11roY0 16w4E1 11roY0 16w4E1 11roY0 16w4E1 11roY0 16w4E1 13YJO0 13YJO1 11roY0 193pu1 13YJO0 13YJO1 13YJO0 13YJO1 3bWdq0|36000,39600,10.1.0/7200,4.1.0/10800",
  "Antarctica/Mawson|0|21600,18000|-xV0Gc0 1UUg7K1|",
  "Antarctica/Palmer|0|-10800,-14400,-7200|-aFYfm0 lqVy1 1kFB60 NEm41 1kFB60 ZfBC1 13ZFS0 16v8A1 13ZFS0 13XNK1 13ZFS0 9bvMs2 zvLG0 h5jws1 WK8U0 TOso1 1e91e0 TOso1 1gGm40 Rh7y1 1gGm40 Rh7y1 1gGm40 13XNK1 13ZFS0 TOso1 1e91e0 TOso1 1gGm40 Rh7y1 16x0I0 11qsU1 1gGm40 TOso1 1e91e0 TOso1 1e91e0 TOso1 1e91e0 TOso1 1gGm40 Rh7y1 1gGm40 YT841 194ly0 TOso1 194ly0 16v8A1 16x0I0 TOso1 1gGm40 Rh7y1 1gGm40 Rh7y1 1gGm40 Rh7y1 1gGm40 TOso1 1e91e0 TOso1 1e91e0 TOso1 1gGm40 Rh7y1 1gGm40 YT841 194ly0 TOso1 1e91e0 11qsU1 16x0I0 1e7961 C4YE0 1tla81 JGZa0 1ogus1 Mek00 1lJ9C1 Mek00 3BiDK1 x0iY0|",
  "Antarctica/Rothera|0|-10800|eLJRe0|",
  "Antarctica/Troll|0|7200|1dfm8g0|0,7200,3.5.0/3600,10.5.0/10800",
  "Antarctica/Vostok|0|25200,0,18000|-pIKvm0 1f9Mu41 1B4Fa0 10cPIY2|",
  "Etc/GMT|0|||",
  "Etc/GMT+1|-3600|||",
  "Etc/GMT+10|-36000|||",
  "Etc/GMT+11|-39600|||",
  "Etc/GMT+12|-43200|||",
  "Etc/GMT+2|-7200|||",
  "Etc/GMT+3|-10800|||",
  "Etc/GMT+4|-14400|||",
  "Etc/GMT+5|-18000|||",
  "Etc/GMT+6|-21600|||",
  "Etc/GMT+7|-25200|||",
  "Etc/GMT+8|-28800|||",
  "Etc/GMT+9|-32400|||",
  "Etc/GMT-1|3600|||",
  "Etc/GMT-10|36000|||",
  "Etc/GMT-11|39600|||",
  "Etc/GMT-12|43200|||",
  "Etc/GMT-13|46800|||",
  "Etc/GMT-14|50400|||",
  "Etc/GMT-2|7200|||",
  "Etc/GMT-3|10800|||",
  "Etc/GMT-4|14400|||",
  "Etc/GMT-5|18000|||",
  "Etc/GMT-6|21600|||",
  "Etc/GMT-7|25200|||",
  "Etc/GMT-8|28800|||",
  "Etc/GMT-9|32400|||",
  "Etc/UTC|0|||"]

end JobQueue.ZoneTable
