/-!
# Zone table: Australia

Recorded offset histories, one zone per entry, in the format read by `ZoneTable.parseLine`.
-/

namespace JobQueue.ZoneTable

/-- Zones of Australia. -/
def australia : List String := [
  "Australia/Adelaide|33260|32400,34200,37800|-2zZz1q0 93UVS1 BJLio2 u5yw1 QU89O2 vxsI1 13YJO2 13YJO1 16w4E2 11roY1 WWfZK2 H8Ig1 1qOLm2 JG361 1ohqw2 JG361 1ohqw2 JG361 1ohqw2 MdnW1 1ohqw2 JG361 1ohqw2 JG361 1ohqw2 JG361 1ohqw2 JG361 1ohqw2 JG361 1ohqw2 MdnW1 1ohqw2 JG361 1ohqw2 JG361 1ohqw2 JG361 1ohqw2 OKIM1 1gFq02 Ri3C1 1jcKQ2 Ri3C1 1jcKQ2 OKIM1 1jcKQ2 OKIM1 1jcKQ2 JG361 1ohqw2 Ri3C1 1gFq02 MdnW1 1ohqw2 OKIM1 1jcKQ2 Ri3C1 1gFq02 TPos1 1e85a2 TPos1 1e85a2 TPos1 1e85a2 TPos1 1gFq02 Ri3C1 1gFq02 Ri3C1 1gFq02 TPos1 1e85a2 TPos1 1e85a2 TPos1 1gFq02 Ri3C1 1gFq02 TPos1 1e85a2 Ri3C1 1gFq02|34200,37800,10.1.0/7200,4.1.0/10800",
  "Australia/Brisbane|36728|36000,39600|-2AaOHm0 KYVra1 u5yw0 QU89O1 vxsI0 13YJO1 13YJO0 16w4E1 11roY0 WWfZK1 H8Ig0 BJJTi1 JG360 1ohqw1 JG360 1ohqw1 JG360|",
  "Australia/Broken_Hill|33948|36000,32400,34200,37800|-2zZzcw0 3kgDW1 5JEt22 BJLio3 u5yw2 QU89O3 vxsI2 13YJO3 13YJO2 16w4E3 11roY2 WWfZK3 H8Ig2 1qOLm3 JG362 1ohqw3 JG362 1ohqw3 JG362 1ohqw3 MdnW2 1ohqw3 JG362 1ohqw3 JG362 1ohqw3 JG362 1ohqw3 JG362 1ohqw3 JG362 1ohqw3 WmJi2 1e85a3 JG362 1ohqw3 JG362 1ohqw3 JG362 1ohqw3 OKIM2 1gFq03 Ri3C2 1jcKQ3 Ri3C2 1jcKQ3 OKIM2 1jcKQ3 JG362 1ohqw3 JG362 1ohqw3 JG362 1ohqw3 MdnW2 1ohqw3 JG362 1ohqw3 JG362 1ohqw3 TPos2 1e85a3 TPos2 1e85a3 TPos2 1e85a3 TPos2 1gFq03 Ri3C2 1gFq03 Ri3C2 1gFq03 TPos2 1e85a3 TPos2 1e85a3 TPos2 1gFq03 Ri3C2 1gFq03 TPos2 1e85a3 Ri3C2 1gFq03|34200,37800,10.1.0/7200,4.1.0/10800",
  "Australia/Darwin|31400|32400,34200,37800|-2zZyxq0 93UrS1 BJLio2 u5yw1 QU89O2 vxsI1 13YJO2 13YJO1 16w4E2 11roY1|",
  "Australia/Eucla|30928|31500,35100|-2ydI0E0 J1PV21 u5yw0 QU89O1 vxsI0 13YJO1 13YJO0 15s5Uc1 JG360 iv1V61 JG360 gs97a1 C42A0 vw0NO1 EBnq0 1gFq01 TPos0 1e85a1 TPos0|",
  "Australia/Hobart|35356|36000,39600|-2yKIwY0 J1tqk1 11roY0 1gFq01 JG360 1ohqw1 JG360 MLPd61 vxsI0 13YJO1 13YJO0 16w4E1 11roY0 OdJp61 13YJO0 1e85a1 MdnW0 1lK5G1 MdnW0 1lK5G1 OKIM0 1lK5G1 H8Ig0 1qOLm1 JG360 1ohqw1 JG360 1ohqw1 JG360 1ohqw1 MdnW0 1ohqw1 JG360 1ohqw1 JG360 1ohqw1 JG360 1ohqw1 JG360 1ohqw1 JG360 1ohqw1 TPos0 1gFq01 Ri3C0 1gFq01 JG360 1ohqw1 JG360 1ohqw1 JG360 1lK5G1 Ri3C0 1jcKQ1 Ri3C0 1jcKQ1 OKIM0 1jcKQ1 OKIM0 1jcKQ1 TPos0 16w4E1 11roY0 16w4E1 11roY0 16w4E1 11roY0 16w4E1 11roY0 16w4E1 13YJO0 16w4E1 11roY0 16w4E1 11roY0 16w4E1 11roY0 16w4E1 11roY0 TPos1 1e85a0 193pu1 11roY0 16w4E1 11roY0 16w4E1 11roY0 16w4E1 11roY0 16w4E1 13YJO0 13YJO1 11roY0|36000,39600,10.1.0/7200,4.1.0/10800",
  "Australia/Lindeman|35756|36000,39600|-2AaOrG0 KYVbu1 u5yw0 QU89O1 vxsI0 13YJO1 13YJO0 16w4E1 11roY0 WWfZK1 H8Ig0 BJJTi1 JG360 1ohqw1 JG360 1ohqw1 JG360 1ohqw1 MdnW0 1ohqw1 JG360|",
  "Australia/Lord_Howe|38180|36000,37800,41400,39600|-2zZAiM0 2XPrYU1 1oiPC2 McrS1 1oimA2 JF721 1oimA2 JF721 1oimA2 JF721 1oimA3 OKfK1 1gFT23 RhAA1 1jddS3 RhAA1 1jddS3 OKfK1 1jddS3 JFA41 1ohTy3 JFA41 1ohTy3 JFA41 1ohTy3 McUU1 1ohTy3 JFA41 1ohTy3 JFA41 1ohTy3 TOVq1 1e8yc3 TOVq1 1e8yc3 TOVq1 1e8yc3 TOVq1 1gFT23 RhAA1 TPRu3 1e7C81 1gFT23 TOVq1 1e8yc3 TOVq1 1e8yc3 TOVq1 1gFT23 RhAA1 1gFT23 TOVq1 1e8yc3 RhAA1 1gFT23|37800,39600,10.1.0/7200,4.1.0/7200",
  "Australia/Melbourne|34792|36000,39600|-2zZzq80 KNG9W1 u5yw0 QU89O1 vxsI0 13YJO1 13YJO0 16w4E1 11roY0 WWfZK1 H8Ig0 1qOLm1 JG360 1ohqw1 JG360 1ohqw1 JG360 1ohqw1 MdnW0 1ohqw1 JG360 1ohqw1 JG360 1ohqw1 JG360 1ohqw1 JG360 1ohqw1 JG360 1ohqw1 MdnW0 1ohqw1 JG360 1ohqw1 JG360 1ohqw1 JG360 1ohqw1 OKIM0 1gFq01 Ri3C0 1gFq01 TPos0 1jcKQ1 OKIM0 1jcKQ1 OKIM0 1jcKQ1 JG360 1ohqw1 JG360 1ohqw1 MdnW0 1ohqw1 JG360 1ohqw1 Ri3C0 1gFq01 TPos0 1e85a1 TPos0 1e85a1 TPos0 1e85a1 TPos0 1gFq01 Ri3C0 TPos1 1e85a0 1gFq01 TPos0 1e85a1 TPos0 1e85a1 TPos0 1gFq01 Ri3C0 1gFq01 TPos0 1e85a1 Ri3C0 1gFq01|36000,39600,10.1.0/7200,4.1.0/10800",
  "Australia/Perth|27804|28800,32400|-2ydHcg0 J1POc1 u5yw0 QU89O1 vxsI0 13YJO1 13YJO0 15s5Uc1 JG360 iv1V61 JG360 gs97a1 C42A0 vw0NO1 EBnq0 1gFq01 TPos0 1e85a1 TPos0|",
  "Australia/Sydney|36292|36000,39600|-2zZzOk0 KNGy81 u5yw0 QU89O1 vxsI0 13YJO1 13YJO0 16w4E1 11roY0 WWfZK1 H8Ig0 1qOLm1 JG360 1ohqw1 JG360 1ohqw1 JG360 1ohqw1 MdnW0 1ohqw1 JG360 1ohqw1 JG360 1ohqw1 JG360 1ohqw1 JG360 1ohqw1 JG360 1ohqw1 WmJi0 1e85a1 JG360 1ohqw1 JG360 1ohqw1 JG360 1ohqw1 OKIM0 1gFq01 Ri3C0 1jcKQ1 Ri3C0 1jcKQ1 OKIM0 1jcKQ1 JG360 1ohqw1 JG360 1ohqw1 JG360 1ohqw1 MdnW0 1ohqw1 JG360 1ohqw1 JG360 1ohqw1 TPos0 1e85a1 TPos0 1e85a1 TPos0 1e85a1 TPos0 1gFq01 Ri3C0 TPos1 1e85a0 1gFq01 TPos0 1e85a1 TPos0 1e85a1 TPos0 1gFq01 Ri3C0 1gFq01 TPos0 1e85a1 Ri3C0 1gFq01|36000,39600,10.1.0/7200,4.1.0/10800"]

end JobQueue.ZoneTable
