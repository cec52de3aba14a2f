/-!
# Zone table: the Pacific

Recorded offset histories, one zone per entry, in the format read by `ZoneTable.parseLine`.
-/

namespace JobQueue.ZoneTable

/-- Zones of the Pacific. -/
def pacific : List String := [
  "Pacific/Apia|45184|-41216,-41400,-39600,-36000,50400,46800|-2FuKAM0 DuuRO1 1lib1K2 25HTEQ3 16cpi2 11roY3 z6tW4 xpAI5 13YJO4 16w4E5 11roY4 16w4E5 11roY4 16w4E5 11roY4 16w4E5 11roY4 16w4E5 11roY4 16w4E5 13YJO4 16w4E5 11roY4 16w4E5 11roY4 16w4E5|",
  "Pacific/Auckland|41944|41400,45000,43200,46800|-3u38jS0 221bpK1 H7Mc0 1jdGU2 TOVq0 1e8yc2 TOVq0 1e8yc2 TOVq0 1e8yc2 Wmgg0 1bBdm2 Wmgg0 1bBdm2 1bAhi0 TPRu2 1e7C80 TPRu2 1e7C80 TPRu2 1e7C80 TPRu2 1e7C80 TPRu2 1gEWY0 RiwE2 1gEWY0 TPRu2 1aOwt23 EBnq2 1qOLm3 MdnW2 1ohqw3 JG362 1ohqw3 JG362 1ohqw3 JG362 1ohqw3 JG362 1ohqw3 JG362 1ohqw3 MdnW2 1ohqw3 JG362 1ohqw3 JG362 1ohqw3 JG362 1ohqw3 JG362 1ohqw3 JG362 1ohqw3 MdnW2 1ohqw3 JG362 1gFq03 WmJi2 1bAKk3 WmJi2 1bAKk3 WmJi2 1bAKk3 YU482 193pu3 YU482 193pu3 YU482 193pu3 YU482 1bAKk3 WmJi2 1bAKk3 WmJi2 1bAKk3 YU482 193pu3 YU482 193pu3 YU482 1bAKk3 WmJi2 1bAKk3 WmJi2 1bAKk3 YU482 193pu3 YU482 193pu3 YU482 193pu3 YU482|43200,46800,9.5.0/7200,4.1.0/10800",
  "Pacific/Bougainville|37336|35312,36000,32400,39600|-36d64M0 w2hKg1 1DqJaM2 6HPA41 2o79mg3|",
  "Pacific/Chatham|44028|44100,45900,49500|-3u38Ru0 2EN3D21 ZAvZO2 EBnq1 1qOLm2 MdnW1 1ohqw2 JG361 1ohqw2 JG361 1ohqw2 JG361 1ohqw2 JG361 1ohqw2 JG361 1ohqw2 MdnW1 1ohqw2 JG361 1ohqw2 JG361 1ohqw2 JG361 1ohqw2 JG361 1ohqw2 JG361 1ohqw2 MdnW1 1ohqw2 JG361 1gFq02 WmJi1 1bAKk2 WmJi1 1bAKk2 WmJi1 1bAKk2 YU481 193pu2 YU481 193pu2 YU481 193pu2 YU481 1bAKk2 WmJi1 1bAKk2 WmJi1 1bAKk2 YU481 193pu2 YU481 193pu2 YU481 1bAKk2 WmJi1 1bAKk2 WmJi1 1bAKk2 YU481 193pu2 YU481 193pu2 YU481 193pu2 YU481|45900,49500,9.5.0/9900,4.1.0/13500",
  "Pacific/Easter|-26248|-25200,-21600,-18000|-1hJhUs0 1ffDAc1 Rh7y0 1oimA1 JF720 194ly1 TOso0 1e91e1 TOso0 1gGm41 Rh7y0 1bBGo1 WlNe0 1gGm41 Rh7y0 1gGm41 TOso0 1e91e1 TOso0 1e91e1 TOso0 1gGm41 Rh7y0 1gGm41 Rh7y0 1gGm41 TOso0 1e91e1 27XtC2 TOso1 1e91e2 TOso1 1gGm42 Rh7y1 1gGm42 Rh7y1 1gGm42 13XNK1 13ZFS2 TOso1 1e91e2 TOso1 1gGm42 Rh7y1 16x0I2 11qsU1 1gGm42 TOso1 1e91e2 TOso1 1e91e2 TOso1 1e91e2 TOso1 1gGm42 Rh7y1 1gGm42 YT841 194ly2 TOso1 194ly2 16v8A1 16x0I2 TOso1 1gGm42 Rh7y1 1gGm42 Rh7y1 1gGm42 Rh7y1 1gGm42 TOso1 1e91e2 TOso1 1e91e2 TOso1 1gGm42 Rh7y1 1gGm42 YT841 194ly2 TOso1 1e91e2 11qsU1 16x0I2 1e7961 C4YE2 1tla81 JGZa2 1ogus1 Mek02 1lJ9C1 Mek02 3BiDK1 x0iY2 1AXaE1 x0iY2 1AXaE1 x0iY2 1ogus1 TQkw2 1e7961 TQkw2 1e7961 TQkw2 1e7961 WnFm2|-21600,-18000,9.1.6/79200,4.1.6/79200",
  "Pacific/Efate|40396|39600,43200|-1ZNVhy0 28i8321 zwHK0 kgaje1 13XNK0 13ZFS1 13XNK0 16x0I1 11qsU0 16x0I1 13XNK0 13ZFS1 13XNK0 13ZFS1 13XNK0 13ZFS1 13XNK0 13ZFS1 13XNK0 16x0I1 H7Mc0 1AZ2M1 wYqQ0|",
  "Pacific/Fakaofo|-41096|-39600,46800|-2nmcfC0 3P2Mru1|",
  "Pacific/Fiji|42944|43200,46800|-1RIViM0 2RiwSc1 H8Ig0 1tm6c1 EBnq0 kPG4U1 H8Ig0 1e85a1 MdnW0 1lK5G1 wZmU0 1AY6I1 wZmU0 1Dvry1 ur600 1G3Is1 rUHe0 1G2Mo1 rUHe0 1IA7e1 pnmo0 1IA7e1 pnmo0 1IA7e1 pnmo0 1L7s41 mQ1y0 20lt61 a9lm0|",
  "Pacific/Galapagos|-21504|-18000,-21600|-1li5nW0 1TsLf21 eKFmE0 oZWM1|",
  "Pacific/Gambier|-32388|-32400|-1YgDtW0|",
  "Pacific/Guadalcanal|38388|39600|-1YgVTu0|",
  "Pacific/Guam|-51660|34740,36000,32400,39600|-4iXfBW0 1VAJDa1 1pqQ4I2 5DumI1 vPBtu3 3oYr61 e4fBu3 2ZVH61 RkQQ3 pmqk1 1oimA3 McrS1 1lL1K3 McrS1 4RZVS3 pmqk1 4O0GQ3 vT1a1 1qPGs3 JF721|",
  "Pacific/Honolulu|-37886|-37800,-34200,-36000|-2xXEno0 1hDOcy1 7Kr60 iCRYA1 7LMrK0 3BkvS2|",
  "Pacific/Kanton|0|-43200,-39600,46800|-173MY00 1rSyR21 wzfEs2|",
  "Pacific/Kiritimati|-37760|-38400,-36000,50400|-2nmd7q0 2IaXL21 wzfXO2|",
  "Pacific/Kosrae|-47284|39116,39600,32400,36000,43200|-4iXgKw0 1VAJDa1 tmeOE2 9ggMM1 CgkUw3 94i7C2 9fTna1 PBYXu4 10tcUU1|",
  "Pacific/Kwajalein|40160|39600,36000,32400,-43200,43200|-2nmxoc0 1eSQMM1 94i7C2 65p3W0 SMtgI3 P1nLa4|",
  "Pacific/Marquesas|-33480|-34200|-1YgDck0|",
  "Pacific/Nauru|40060|41400,32400,43200|-1GzddW0 KauMs1 6sZrG0 19nHHG2|",
  "Pacific/Niue|-40780|-40800,-39600|-AKFdq0 p09Te1|",
  "Pacific/Norfolk|40312|40320,41400,45000,39600,43200|-2nmxqE0 1IMrqw1 ORZTG2 JG361 1oGNSo3 8ynIk4|39600,43200,10.1.0/7200,4.1.0/10800",
  "Pacific/Noumea|39948|39600,43200|-1ZNVak0 2gIU6E1 uNzy0 1D9U41 va360 BVKqA1 wZmU0|",
  "Pacific/Pago_Pago|45432|-40968,-39600|-2FuKEM0 DuuRO1|",
  "Pacific/Palau|-54124|32276,32400|-4iXeYc0 1VAJDa1|",
  "Pacific/Pitcairn|-31220|-30600,-28800|-2nmeOU0 3lPY7q1|",
  "Pacific/Port_Moresby|35320|35312,36000|-36d5yg0 w2hdK1|",
  "Pacific/Rarotonga|48056|-38344,-37800,-34200,-36000|-2px4g00 1OMopi1 TGkow2 EArm3 1ohTy2 JFA43 1ohTy2 JFA43 1ohTy2 McUU3 1ohTy2 JFA43 1ohTy2 JFA43 1ohTy2 JFA43 1ohTy2 JFA43 1ohTy2 JFA43 1ohTy2 McUU3 1ohTy2 JFA43 1ohTy2 JFA43 1ohTy2 JFA43|",
  "Pacific/Tahiti|-35896|-36000|-1YgCzm0|",
  "Pacific/Tarawa|41524|43200|-2nmxKc0|",
  "Pacific/Tongatapu|44352|44400,46800,50400|-PV39u0 wHf3O1 1kMELu2 Xs9W1 1lK5G2 ur601 1DwnC2 ur601 vyz4I2 pnmo1|"]

end JobQueue.ZoneTable
