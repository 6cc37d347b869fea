/-! What domain names make of characters, in the written form of tables, without those that have a
decomposition; Unicode 17. -/
namespace TunnelDial.DomainName

def disallowedText : String :=
  "80,1f 2d8,1 6,3 7,2 14 18d 26,1 32,1 3 37,7 1b,3 6,10 16 c0 30,1 3b,1 65,d 3b,1 31,1 f 1c,1 1
b,4 20,6 4b a1 8,1 2,1 16 7 1,2 4,1 9,1 2,1 4,7 1,6 5,1 19,1 3 6,3 2,1 16 7 2 2 2,1 1 5,3 2,1 3,2
1,6 4,8 11,9 3 9 3 16 7 2 5,1 a 3 3,1 1,e 4,1 c,6 7 3 8,1 2,1 16 7 2 5,1 9,1 2,1 3,6 3,6 5,1 12,9 2
6,2 3 4,2 2 1 2,2 2,2 3,2 c,3 5,2 3 4,1 1,5 1,d 15,4 d 3 17 10,1 9 3 4,6 2 3 2,1 4,1 a,6 16 3 17 a
5,1 9 3 4,6 2,4 3 4,1 a 3,b d 3 33 3 6,3 10,1 1a 3 12,2 18 9 1,1 7,2 1,3 6 1 8,5 a,1 3,b 3a,3 1d,24
2 1 5 18 1 17,1 5 1 7 a,1 4,1f 48 24,3 27 24 f d,24 c6 1,4 1,1 179 4,1 7 1 4,1 29 4,1 21 4,1 7 1
4,1 f 39 4,1 43,1 20,2 1a,5 56,1 6,1 280 1c,2 59,6 16,8 18,8 14,b d 3 2,b 5e,1 a,5 a,5 1a,5 59,6
2b,4 46,9 1f c,3 c,3 1,2 2a,1 5,a 2c,3 1a,5 b,2 3e,1 41 1d,1 b,5 a,5 e,1 2e,1 c,13 4d a6,7 3c,2 f,2
3e,4 2b,1 b,7 2b,4 216,9f f,30 9 e,1 14,2 1,6 36,4 8,1 1b d,2 22,d 21,e 8c,3 29a,15 b,14 28,13
6d8,1 17e,4 2d 1,4 1,1 38,6 2,d 18,8 7 7 7 7 7 7 7 7 7e,21 1a 59,b d6,29 40 56,1 67,4 2b 5e 56,9 2f
1a2 4 10 70b4,2 37,8 15c,13 b8,7 dd,13 3c,2 a,5 38,7 46,7 c,5 74,a 1e,2 4e b,3 21 37,8 e,1 a,1
67,17 1c,9 6,1 6,1 6,8 7 7 3c,3 7e,1 a,2bb5 17,3 31,2103 16e,91 7,b 5,4 1a,e 28a,1f 22 6,6 10 21,1
13 4,3 5 87,1 1 be,2 6,1 6,1 6,1 3,2 7 7,10 c 1a 13 2 f,1 e,21 7b,4 3,3 2d,2 58 d,2 1,2e 2e,81 1d,2
31,e 1c,3 24,8 1e,4 2b,4 1e 25,3 e,29 9e,1 a,5 24,3 24,3 28,7 34,a c f 7 2 b f 7 2,2 34,b 137,8
16,9 8,17 6 2a 9,44 6,1 1 2c 2,2 1,1 17 48,7 9,2f 13 2,4 21,2 1b,4 1b,25 38,3 14,1 32 2,4 8 3 1d,1
3,3 a,6 9,6 40,1f 27,3 c,8 36,2 1d,1 1b,4 1a,6 4,b 7,4f 49,36 33,c 33,6 2e,7 a,5 26,2 1d,7 2,cf 1f
2a 3,1 2,f 6,7 9,20 2e,7 2a,15 1a,25 1c,13 17,8 4e,3 24,8 3e 5,c 19,6 a,5 35 12,7 27,8 60 14,a 12
2f,3d 7 1 4 f b,5 3b,4 a,5 4 8,1 2,1 16 7 2 5 a,1 2,1 3,1 1,5 1,4 7,1 7,2 5,a a 1,3 26 a 1,3 4 a
2,7 2,1c 5c 5,1d 48,7 a,a5 36,1 26,21 45,a a,5 d,12 3a,5 a,5 14,1b 1b,1 f,3 17,b8 3c,63 53,b 8,1
1,1 8 2 1e 2,1 c,8 a,45 8,1 2e,1 b,1a 48,7 53,c 49,6 a,55 8,57 22,d a,5 9 2d e,9 1d,2 20,1 16 e,48
7 2 2c,2 1 2 9,7 a,5 6 2 25 2 6,6 a,5 2c,3 a,f5 19,6 11 29,2 1d,54 1,e 32,c 39b,65 6f 5,a c4,a4b
63,c 430,f 16,9 f9b,4 247,1ab8 3a,6c5 239,6 1f a,3 51 a,5 1e,1 6,9 46,9 a 7 15,4 13,1af 3a,c5 5b,4
19,1 19,2b 4b,3 39,6 11,3f 5,a 7,8 1cd6,28 20,60 73,21fc 4 7 2 123,e 1,1c 3,1 1,d 4,7 18c,903 6b,4
d,2 9,6 a,1 8,f5b fd,2 1b4,5 17,e 11,e 2e,1 17,8 74,3b f6,9 27,1 c2,14 46,79 14,b 14,b 57,8 19,86
55 47 2,1 1,1 2,1 4 c 1 7 41 4,1 8 7 1c 4 5 1,2 7 154,1 124,1 2be,e 5 f,44f 1f,5 6,d4 7 11,1 7 2
5,4 3e,20 1,6f 2d,2 e,1 a,3 2,13f 1f,10 3a,4 1,1cf 2a,d5 2b,3 1,bf 1f 16,7 2,df 7 4 2 f c5,1 10,28
4c,3 a,3 2,310 44,4b 3d,c1 4 1b 2 1,1 1 a 4 1 1,5 1,3 1 1 1 3 2 1,1 1 1 1 1 1 2 1,1 4 7 4 4 1 a
11,4 3 5 11,33 2,10d 2c,3 64,b f,1 f f 25,a ad,37 1d,c 2c,3 9,6 2,d 6,99 3d9,2 11,2 d,2 da,5 c,3
1,e c,3 38,7 a,5 28,7 1e,1 c,3 2,d 9,26 158,7 e,1 d,2 b,2 39 1,3 10,1 c,3 a,6 93 67,404 a6e0,1f
111e,1 168e,1 1d31,e 26e,11a1 134b,4 212a,acc85 f0,2fe0f"

def ignoredText : String :=
  "ad 2a1 e0f,1 653,1 55,4 7fb 54,4 5,5 10f4 cc9b,f ef a0 bcff,3 14cf,7 c2f85,ef"

/-- Shifts, most of them from capital to small letters. -/
def shiftsText : String :=
  "246,4,2,247 142,10,1,3b1 1,6,1,3c3 2e,b,2,3d9 e,2,1,37b 4,2,1,454 1,3,1,458 4,8,1,430 1,15,1,43a
30,a,2,461 3,4,2,479 9,1a,2,48b 4,5,2,4c4 2c,1a,2,4fb 2,25,1,561 b49,25,1,2d00 332,5,1,13f0
892,2a,1,10d0 2,2,1,10fd 73,7,1,67 22,2,1,3b2 44,2,1,268 7,3,1,272 a,2,1,290 13b,2,2,1efb
175,5,1,34 6,9,1,30 c,3,1,6b 7f,2,1,70 19,3,1,5d0 327,8,1,31 4d,19,1,61 0,19,1,61 716,2f,1,2c30
37,2,2,2c68 14,31,2,2c81 454,2,1,1103 0,5,1,11b0 1,2,1,1106 1,9,1,1109 0,14,1,1161 14,4,1,112b
7,2,1,1157 dc,2,1,1105 3,4,1,110e 76,5,1,30ca 4,4,1,30de 2,5,1,30e8 0,3,1,30ef 7341,16,2,a641
13,d,2,a681 87,6,2,a723 3,1e,2,a733 f,4,2,a77f f,9,2,a797 b,7,2,a7b5 9,7,2,a7cd 395,4f,1,13a0
4f64,2,1,5db 31a,3,1,300c bc,1f,1,21 0,19,1,61 0,23,1,5b 26,5,1,30ca 4,4,1,30de 2,5,1,30e8
b,2,1,1103 0,5,1,11b0 1,2,1,1106 1,9,1,1109 3,5,1,1161 2,5,1,1167 2,5,1,116d 2,2,1,1173 c,3,1,2190
413,27,1,10428 88,23,1,104d8 9c,a,1,10597 1,e,1,105a3 1,6,1,105b3 223,2,1,1c0 4c7,32,1,10cc0
9d,15,1,10d70 b3a,1f,1,118c0 5580,1f,1,16e60 40,18,1,16ebb 5e1d,19,1,61 0,9,1,30 706,19,1,61
0,19,1,61 0,19,1,61 0,6,1,61 1,11,1,69 0,19,1,61 0,19,1,61 d,3,1,6e 1,7,1,73 0,3,1,61 3,6,1,68
1,a,1,70 0,19,1,61 0,19,1,61 3,3,1,64 2,7,1,6a 1,6,1,73 1,19,1,61 3,3,1,64 1,4,1,69 5,6,1,73
1,19,1,61 0,19,1,61 0,19,1,61 0,19,1,61 0,19,1,61 0,19,1,61 0,19,1,61 0,19,1,61 0,19,1,61 0,19,1,61
0,19,1,61 0,19,1,61 0,19,1,61 4,10,1,3b1 1,6,1,3c3 1,10,1,3b1 1,6,1,3c3 7,10,1,3b1 1,6,1,3c3
1,10,1,3b1 1,6,1,3c3 7,10,1,3b1 1,6,1,3c3 1,10,1,3b1 1,6,1,3c3 7,10,1,3b1 1,6,1,3c3 1,10,1,3b1
1,6,1,3c3 7,10,1,3b1 1,6,1,3c3 1,10,1,3b1 1,6,1,3c3 b,9,1,30 0,9,1,30 0,9,1,30 0,9,1,30 0,9,1,30
830,8,1,430 0,2,1,43a 0,a,1,43e a,8,1,430 5,5,1,443 89b,21,1,1e922 4e8,3,1,643 1c,3,1,643
5d,2,1,644 1d,2,1,644 282,19,1,61 aa6,9,1,30"

def replacementsText : String :=
  "a0,20 7,20,308 1,61 4,20,304 2,32 0,33 0,20,301 0,3bc 2,20,327 0,31 0,6f 1,31,2044,34
0,31,2044,32 0,33,2044,34 7,e6 9,f0 7,f8 5,fe 31,111 15,127 b,69,6a 0,69,6a b,6c,b7 0,6c,b7 0,142
7,2bc,6e 0,14b 7,153 13,167 18,73 1,253 0,183 1,185 1,254 0,188 1,256 0,257 0,18c 2,1dd 0,259 0,25b
0,192 1,260 0,263 1,269 0,268 0,199 3,26f 0,272 1,275 2,1a3 1,1a5 1,280 0,1a8 1,283 2,1ad 1,288
2,28a 0,28b 0,1b4 1,1b6 1,292 0,1b9 3,1bd 7,64,17e 0,64,17e 0,64,17e 0,6c,6a 0,6c,6a 0,6c,6a
0,6e,6a 0,6e,6a 0,6e,6a 17,1e5 c,64,7a 0,64,7a 0,64,7a 2,195 0,1bf 24,21d 3,19e 1,223 1,225 15,2c65
0,23c 1,19a 0,2c66 2,242 1,180 0,289 0,28c 6a,68 0,266 0,6a 0,72 0,279 0,27b 0,281 0,77 0,79
1f,20,306 0,20,307 0,20,30a 0,20,328 0,20,303 0,20,30b 2,263 0,6c 0,73 0,78 0,295 60,3b9 2a,371
1,373 3,377 3,20,3b9 4,3f3 4,20,301 4a,3d7 0,3b2 0,3b8 0,3c5 2,3c6 0,3c0 19,3ba 0,3c1 0,3c3 1,3b8
0,3b5 1,3f8 1,3c3 0,3fb 7,452 c,45f b0,4cf 13,4d5 3,4d9 7,4e1 7,4e9 d,4f7 90,565,582 ed,627,674
0,648,674 0,6c7,674 0,64a,674 7ba,e4d,e32 7f,ecd,eb2 28,eab,e99 0,eab,ea1 2e,f0b 6a,fb2,f71,f80
1,fb3,f71,f80 14d,2d27 5,2d2d 2e,10dc b83,432 0,434 0,43e 0,441 0,442 0,442 0,44a 0,463 0,a64b
0,1c8a a2,61 0,e6 0,62 1,64 0,65 0,1dd 9,6f 0,223 0,70 0,72 0,74 0,75 0,77 0,61 0,250 0,251 0,1d02
0,62 0,64 0,65 0,259 0,25b 0,25c 0,67 1,6b 0,6d 0,14b 0,6f 0,254 0,1d16 0,1d17 0,70 0,74 0,75
0,1d1d 0,26f 0,76 0,1d25 3,3c6 0,3c7 0,69 0,72 0,75 0,76 0,3b2 0,3b3 0,3c1 0,3c6 0,3c7 d,43d 22,252
0,63 0,255 0,f0 0,25c 0,66 0,25f 0,261 0,265 3,1d7b 0,29d 0,26d 0,1d85 0,29f 0,271 0,270 4,278
0,282 0,283 0,1ab 0,289 0,28a 0,1d1c 0,28b 0,28c 0,7a 3,3b8 da,61,2be 3,df 11e,20,313 1,20,313
0,20,342 3d,20,314 3,20 0,20 0,20 0,20 0,20 0,20 0,20 0,20 0,20 6,2010 5,20,333 17,20 3,2032,2032
0,2032,2032,2032 1,2035,2035 0,2035,2035,2035 4,21,21 1,20,305 8,3f,3f 0,3f,21 0,21,3f
d,2032,2032,2032,2032 7,20 10,30 0,69 8,2b 0,2212 0,3d 0,28 0,29 0,6e a,2b 0,2212 0,3d 0,28 0,29
1,61 0,65 0,6f 0,78 0,259 0,68 4,70 0,73 0,74 b,72,73 57,61,2f,63 0,61,2f,73 0,63 0,b0,63
1,63,2f,6f 0,63,2f,75 0,25b 1,b0,66 0,67 0,68 0,68 0,68 0,68 0,127 0,69 0,69 0,6c 0,6c 1,6e 0,6e,6f
5,72 0,72 2,73,6d 0,74,65,6c 0,74,6d 1,7a 3,7a 3,62 0,63 1,65 0,65 0,66 0,214e 0,6d 0,6f 4,69
1,66,61,78 0,3c0 0,3b3 0,3b3 0,3c0 0,2211 4,64 0,64 0,65 0,69 0,6a 6,31,2044,37 0,31,2044,39
0,31,2044,31,30 0,31,2044,33 0,32,2044,33 0,31,2044,35 0,32,2044,35 0,33,2044,35 0,34,2044,35
0,31,2044,36 0,35,2044,36 0,31,2044,38 0,33,2044,38 0,35,2044,38 0,37,2044,38 0,31,2044 0,69
0,69,69 0,69,69,69 0,69,76 0,76 0,76,69 0,76,69,69 0,76,69,69,69 0,69,78 0,78 0,78,69 0,78,69,69
0,6c 0,63 0,64 0,6d 0,69 0,69,69 0,69,69,69 0,69,76 0,76 0,76,69 0,76,69,69 0,76,69,69,69 0,69,78
0,78 0,78,69 0,78,69,69 0,6c 0,63 0,64 0,6d 3,2184 5,30,2044,33 a2,222b,222b 0,222b,222b,222b
1,222e,222e 0,222e,222e,222e 238,31,30 0,31,31 0,31,32 0,31,33 0,31,34 0,31,35 0,31,36 0,31,37
0,31,38 0,31,39 0,32,30 0,28,31,29 0,28,32,29 0,28,33,29 0,28,34,29 0,28,35,29 0,28,36,29
0,28,37,29 0,28,38,29 0,28,39,29 0,28,31,30,29 0,28,31,31,29 0,28,31,32,29 0,28,31,33,29
0,28,31,34,29 0,28,31,35,29 0,28,31,36,29 0,28,31,37,29 0,28,31,38,29 0,28,31,39,29 0,28,32,30,29
14,28,61,29 0,28,62,29 0,28,63,29 0,28,64,29 0,28,65,29 0,28,66,29 0,28,67,29 0,28,68,29 0,28,69,29
0,28,6a,29 0,28,6b,29 0,28,6c,29 0,28,6d,29 0,28,6e,29 0,28,6f,29 0,28,70,29 0,28,71,29 0,28,72,29
0,28,73,29 0,28,74,29 0,28,75,29 0,28,76,29 0,28,77,29 0,28,78,29 0,28,79,29 0,28,7a,29 34,30
521,222b,222b,222b,222b 67,3a,3a,3d 0,3d,3d 0,3d,3d,3d 1e9,2c61 1,26b 0,1d7d 0,27d 8,251 0,271
0,250 0,252 1,2c73 2,2c76 6,6a 0,76 0,23f 0,240 6b,2cec 1,2cee 4,2cf3 7c,2d61 12f,6bcd 53,9f9f
c,4e00 0,4e28 0,4e36 0,4e3f 0,4e59 0,4e85 0,4e8c 0,4ea0 0,4eba 0,513f 0,5165 0,516b 0,5182 0,5196
0,51ab 0,51e0 0,51f5 0,5200 0,529b 0,52f9 0,5315 0,531a 0,5338 0,5341 0,535c 0,5369 0,5382 0,53b6
0,53c8 0,53e3 0,56d7 0,571f 0,58eb 0,5902 0,590a 0,5915 0,5927 0,5973 0,5b50 0,5b80 0,5bf8 0,5c0f
0,5c22 0,5c38 0,5c6e 0,5c71 0,5ddb 0,5de5 0,5df1 0,5dfe 0,5e72 0,5e7a 0,5e7f 0,5ef4 0,5efe 0,5f0b
0,5f13 0,5f50 0,5f61 0,5f73 0,5fc3 0,6208 0,6236 0,624b 0,652f 0,6534 0,6587 0,6597 0,65a4 0,65b9
0,65e0 0,65e5 0,66f0 0,6708 0,6728 0,6b20 0,6b62 0,6b79 0,6bb3 0,6bcb 0,6bd4 0,6bdb 0,6c0f 0,6c14
0,6c34 0,706b 0,722a 0,7236 0,723b 0,723f 0,7247 0,7259 0,725b 0,72ac 0,7384 0,7389 0,74dc 0,74e6
0,7518 0,751f 0,7528 0,7530 0,758b 0,7592 0,7676 0,767d 0,76ae 0,76bf 0,76ee 0,77db 0,77e2 0,77f3
0,793a 0,79b8 0,79be 0,7a74 0,7acb 0,7af9 0,7c73 0,7cf8 0,7f36 0,7f51 0,7f8a 0,7fbd 0,8001 0,800c
0,8012 0,8033 0,807f 0,8089 0,81e3 0,81ea 0,81f3 0,81fc 0,820c 0,821b 0,821f 0,826e 0,8272 0,8278
0,864d 0,866b 0,8840 0,884c 0,8863 0,897e 0,898b 0,89d2 0,8a00 0,8c37 0,8c46 0,8c55 0,8c78 0,8c9d
0,8d64 0,8d70 0,8db3 0,8eab 0,8eca 0,8f9b 0,8fb0 0,8fb5 0,9091 0,9149 0,91c6 0,91cc 0,91d1 0,9577
0,9580 0,961c 0,96b6 0,96b9 0,96e8 0,9751 0,975e 0,9762 0,9769 0,97cb 0,97ed 0,97f3 0,9801 0,98a8
0,98db 0,98df 0,9996 0,9999 0,99ac 0,9aa8 0,9ad8 0,9adf 0,9b25 0,9b2f 0,9b32 0,9b3c 0,9b5a 0,9ce5
0,9e75 0,9e7f 0,9ea5 0,9ebb 0,9ec3 0,9ecd 0,9ed1 0,9ef9 0,9efd 0,9f0e 0,9f13 0,9f20 0,9f3b 0,9f4a
0,9f52 0,9f8d 0,9f9c 0,9fa0 2a,20 1,2e 33,3012 1,5341 0,5344 0,5345 60,20,3099 0,20,309a
2,3088,308a 5f,30b3,30c8 31,1100 0,1101 0,11aa 0,1102 0,11ac 0,11ad 9,111a 3,1121 20,1114 0,1115
0,11c7 0,11c8 0,11cc 0,11ce 0,11d3 0,11d7 0,11d9 0,111c 0,11dd 0,11df 0,111d 0,111e 0,1120 0,1122
0,1123 0,1127 0,1129 5,1132 0,1136 0,1140 0,1147 0,114c 0,11f1 0,11f2 3,1184 0,1185 0,1188 0,1191
0,1192 0,1194 0,119e 0,11a1 3,4e00 0,4e8c 0,4e09 0,56db 0,4e0a 0,4e2d 0,4e0b 0,7532 0,4e59 0,4e19
0,4e01 0,5929 0,5730 0,4eba 60,28,1100,29 0,28,1102,29 0,28,1103,29 0,28,1105,29 0,28,1106,29
0,28,1107,29 0,28,1109,29 0,28,110b,29 0,28,110c,29 0,28,110e,29 0,28,110f,29 0,28,1110,29
0,28,1111,29 0,28,1112,29 0,28,ac00,29 0,28,b098,29 0,28,b2e4,29 0,28,b77c,29 0,28,b9c8,29
0,28,bc14,29 0,28,c0ac,29 0,28,c544,29 0,28,c790,29 0,28,cc28,29 0,28,ce74,29 0,28,d0c0,29
0,28,d30c,29 0,28,d558,29 0,28,c8fc,29 0,28,c624,c804,29 0,28,c624,d6c4,29 1,28,4e00,29
0,28,4e8c,29 0,28,4e09,29 0,28,56db,29 0,28,4e94,29 0,28,516d,29 0,28,4e03,29 0,28,516b,29
0,28,4e5d,29 0,28,5341,29 0,28,6708,29 0,28,706b,29 0,28,6c34,29 0,28,6728,29 0,28,91d1,29
0,28,571f,29 0,28,65e5,29 0,28,682a,29 0,28,6709,29 0,28,793e,29 0,28,540d,29 0,28,7279,29
0,28,8ca1,29 0,28,795d,29 0,28,52b4,29 0,28,4ee3,29 0,28,547c,29 0,28,5b66,29 0,28,76e3,29
0,28,4f01,29 0,28,8cc7,29 0,28,5354,29 0,28,796d,29 0,28,4f11,29 0,28,81ea,29 0,28,81f3,29 0,554f
0,5e7c 0,6587 0,7b8f 8,70,74,65 0,32,31 0,32,32 0,32,33 0,32,34 0,32,35 0,32,36 0,32,37 0,32,38
0,32,39 0,33,30 0,33,31 0,33,32 0,33,33 0,33,34 0,33,35 0,1100 0,1102 0,1103 3,1109 0,110b 0,110c
5,ac00 0,b098 0,b2e4 0,b77c 0,b9c8 0,bc14 0,c0ac 0,c544 0,c790 0,cc28 0,ce74 0,d0c0 0,d30c 0,d558
0,cc38,ace0 0,c8fc,c758 0,c6b0 1,4e00 0,4e8c 0,4e09 0,56db 0,4e94 0,516d 0,4e03 0,516b 0,4e5d
0,5341 0,6708 0,706b 0,6c34 0,6728 0,91d1 0,571f 0,65e5 0,682a 0,6709 0,793e 0,540d 0,7279 0,8ca1
0,795d 0,52b4 0,79d8 0,7537 0,5973 0,9069 0,512a 0,5370 0,6ce8 0,9805 0,4f11 0,5199 0,6b63 0,4e0a
0,4e2d 0,4e0b 0,5de6 0,53f3 0,533b 0,5b97 0,5b66 0,76e3 0,4f01 0,8cc7 0,5354 0,591c 0,33,36 0,33,37
0,33,38 0,33,39 0,34,30 0,34,31 0,34,32 0,34,33 0,34,34 0,34,35 0,34,36 0,34,37 0,34,38 0,34,39
0,35,30 0,31,6708 0,32,6708 0,33,6708 0,34,6708 0,35,6708 0,36,6708 0,37,6708 0,38,6708 0,39,6708
0,31,30,6708 0,31,31,6708 0,31,32,6708 0,68,67 0,65,72,67 0,65,76 0,6c,74,64 0,30a2 0,30a4 0,30a6
0,30a8 0,30aa 0,30ab 0,30ad 0,30af 0,30b1 0,30b3 0,30b5 0,30b7 0,30b9 0,30bb 0,30bd 0,30bf 0,30c1
0,30c4 0,30c6 0,30c8 6,30d2 0,30d5 0,30d8 0,30db 5,30e4 0,30e6 a,4ee4,548c 0,30a2,30d1,30fc,30c8
0,30a2,30eb,30d5,30a1 0,30a2,30f3,30da,30a2 0,30a2,30fc,30eb 0,30a4,30cb,30f3,30b0 0,30a4,30f3,30c1
0,30a6,30a9,30f3 0,30a8,30b9,30af,30fc,30c9 0,30a8,30fc,30ab,30fc 0,30aa,30f3,30b9 0,30aa,30fc,30e0
0,30ab,30a4,30ea 0,30ab,30e9,30c3,30c8 0,30ab,30ed,30ea,30fc 0,30ac,30ed,30f3 0,30ac,30f3,30de
0,30ae,30ac 0,30ae,30cb,30fc 0,30ad,30e5,30ea,30fc 0,30ae,30eb,30c0,30fc 0,30ad,30ed
0,30ad,30ed,30b0,30e9,30e0 0,30ad,30ed,30e1,30fc,30c8,30eb 0,30ad,30ed,30ef,30c3,30c8
0,30b0,30e9,30e0 0,30b0,30e9,30e0,30c8,30f3 0,30af,30eb,30bc,30a4,30ed 0,30af,30ed,30fc,30cd
0,30b1,30fc,30b9 0,30b3,30eb,30ca 0,30b3,30fc,30dd 0,30b5,30a4,30af,30eb 0,30b5,30f3,30c1,30fc,30e0
0,30b7,30ea,30f3,30b0 0,30bb,30f3,30c1 0,30bb,30f3,30c8 0,30c0,30fc,30b9 0,30c7,30b7 0,30c9,30eb
0,30c8,30f3 0,30ca,30ce 0,30ce,30c3,30c8 0,30cf,30a4,30c4 0,30d1,30fc,30bb,30f3,30c8
0,30d1,30fc,30c4 0,30d0,30fc,30ec,30eb 0,30d4,30a2,30b9,30c8,30eb 0,30d4,30af,30eb 0,30d4,30b3
0,30d3,30eb 0,30d5,30a1,30e9,30c3,30c9 0,30d5,30a3,30fc,30c8 0,30d6,30c3,30b7,30a7,30eb
0,30d5,30e9,30f3 0,30d8,30af,30bf,30fc,30eb 0,30da,30bd 0,30da,30cb,30d2 0,30d8,30eb,30c4
0,30da,30f3,30b9 0,30da,30fc,30b8 0,30d9,30fc,30bf 0,30dd,30a4,30f3,30c8 0,30dc,30eb,30c8
0,30db,30f3 0,30dd,30f3,30c9 0,30db,30fc,30eb 0,30db,30fc,30f3 0,30de,30a4,30af,30ed
0,30de,30a4,30eb 0,30de,30c3,30cf 0,30de,30eb,30af 0,30de,30f3,30b7,30e7,30f3 0,30df,30af,30ed,30f3
0,30df,30ea 0,30df,30ea,30d0,30fc,30eb 0,30e1,30ac 0,30e1,30ac,30c8,30f3 0,30e1,30fc,30c8,30eb
0,30e4,30fc,30c9 0,30e4,30fc,30eb 0,30e6,30a2,30f3 0,30ea,30c3,30c8,30eb 0,30ea,30e9
0,30eb,30d4,30fc 0,30eb,30fc,30d6,30eb 0,30ec,30e0 0,30ec,30f3,30c8,30b2,30f3 0,30ef,30c3,30c8
0,30,70b9 0,31,70b9 0,32,70b9 0,33,70b9 0,34,70b9 0,35,70b9 0,36,70b9 0,37,70b9 0,38,70b9 0,39,70b9
0,31,30,70b9 0,31,31,70b9 0,31,32,70b9 0,31,33,70b9 0,31,34,70b9 0,31,35,70b9 0,31,36,70b9
0,31,37,70b9 0,31,38,70b9 0,31,39,70b9 0,32,30,70b9 0,32,31,70b9 0,32,32,70b9 0,32,33,70b9
0,32,34,70b9 0,68,70,61 0,64,61 0,61,75 0,62,61,72 0,6f,76 0,70,63 0,64,6d 0,64,6d,32 0,64,6d,33
0,69,75 0,5e73,6210 0,662d,548c 0,5927,6b63 0,660e,6cbb 0,682a,5f0f,4f1a,793e 0,70,61 0,6e,61
0,3bc,61 0,6d,61 0,6b,61 0,6b,62 0,6d,62 0,67,62 0,63,61,6c 0,6b,63,61,6c 0,70,66 0,6e,66 0,3bc,66
0,3bc,67 0,6d,67 0,6b,67 0,68,7a 0,6b,68,7a 0,6d,68,7a 0,67,68,7a 0,74,68,7a 0,3bc,6c 0,6d,6c
0,64,6c 0,6b,6c 0,66,6d 0,6e,6d 0,3bc,6d 0,6d,6d 0,63,6d 0,6b,6d 0,6d,6d,32 0,63,6d,32 0,6d,32
0,6b,6d,32 0,6d,6d,33 0,63,6d,33 0,6d,33 0,6b,6d,33 0,6d,2215,73 0,6d,2215,73,32 0,70,61 0,6b,70,61
0,6d,70,61 0,67,70,61 0,72,61,64 0,72,61,64,2215,73 0,72,61,64,2215,73,32 0,70,73 0,6e,73 0,3bc,73
0,6d,73 0,70,76 0,6e,76 0,3bc,76 0,6d,76 0,6b,76 0,6d,76 0,70,77 0,6e,77 0,3bc,77 0,6d,77 0,6b,77
0,6d,77 0,6b,3c9 0,6d,3c9 1,62,71 0,63,63 0,63,64 0,63,2215,6b,67 1,64,62 0,67,79 0,68,61 0,68,70
0,69,6e 0,6b,6b 0,6b,6d 0,6b,74 0,6c,6d 0,6c,6e 0,6c,6f,67 0,6c,78 0,6d,62 0,6d,69,6c 0,6d,6f,6c
0,70,68 1,70,70,6d 0,70,72 0,73,72 0,73,76 0,77,62 0,76,2215,6d 0,61,2215,6d 0,31,65e5 0,32,65e5
0,33,65e5 0,34,65e5 0,35,65e5 0,36,65e5 0,37,65e5 0,38,65e5 0,39,65e5 0,31,30,65e5 0,31,31,65e5
0,31,32,65e5 0,31,33,65e5 0,31,34,65e5 0,31,35,65e5 0,31,36,65e5 0,31,37,65e5 0,31,38,65e5
0,31,39,65e5 0,32,30,65e5 0,32,31,65e5 0,32,32,65e5 0,32,33,65e5 0,32,34,65e5 0,32,35,65e5
0,32,36,65e5 0,32,37,65e5 0,32,38,65e5 0,32,39,65e5 0,33,30,65e5 0,33,31,65e5 0,67,61,6c 729c,44a
0,44c d2,a76f 8,a77a 1,a77c 1,1d79 d,a78c 1,265 2,a791 1,a793 17,266 0,25c 0,261 0,26c 0,26a 1,29e
0,287 0,29d 0,ab53 10,a794 0,282 0,1d8e 0,a7c8 1,a7ca 1,264 10,19b 14,73 0,63 0,66 0,71 0,a7f6
2,127 0,153 362,a727 0,ab37 0,26b 0,ab52 9,28d 4f96,66,66 0,66,69 0,66,6c 0,66,66,69 0,66,66,6c
0,73,74 0,73,74 c,574,576 0,574,565 0,574,56b 0,57e,576 0,574,56d 8,5e2 0,5d0 0,5d3 0,5d4 3,5e8
0,5ea 0,2b 25,5d0,5dc 0,671 0,671 0,67b 0,67b 0,67b 0,67b 0,67e 0,67e 0,67e 0,67e 0,680 0,680 0,680
0,680 0,67a 0,67a 0,67a 0,67a 0,67f 0,67f 0,67f 0,67f 0,679 0,679 0,679 0,679 0,6a4 0,6a4 0,6a4
0,6a4 0,6a6 0,6a6 0,6a6 0,6a6 0,684 0,684 0,684 0,684 0,683 0,683 0,683 0,683 0,686 0,686 0,686
0,686 0,687 0,687 0,687 0,687 0,68d 0,68d 0,68c 0,68c 0,68e 0,68e 0,688 0,688 0,698 0,698 0,691
0,691 0,6a9 0,6a9 0,6a9 0,6a9 0,6af 0,6af 0,6af 0,6af 0,6b3 0,6b3 0,6b3 0,6b3 0,6b1 0,6b1 0,6b1
0,6b1 0,6ba 0,6ba 0,6bb 0,6bb 0,6bb 0,6bb 0,6c0 0,6c0 0,6c1 0,6c1 0,6c1 0,6c1 0,6be 0,6be 0,6be
0,6be 0,6d2 0,6d2 0,6d3 0,6d3 21,6ad 0,6ad 0,6ad 0,6ad 0,6c7 0,6c7 0,6c6 0,6c6 0,6c8 0,6c8
0,6c7,674 0,6cb 0,6cb 0,6c5 0,6c5 0,6c9 0,6c9 0,6d0 0,6d0 0,6d0 0,6d0 0,649 0,649 0,626,627
0,626,627 0,626,6d5 0,626,6d5 0,626,648 0,626,648 0,626,6c7 0,626,6c7 0,626,6c6 0,626,6c6 0,626,6c8
0,626,6c8 0,626,6d0 0,626,6d0 0,626,6d0 0,626,649 0,626,649 0,626,649 0,6cc 0,6cc 0,6cc 0,6cc
0,626,62c 0,626,62d 0,626,645 0,626,649 0,626,64a 0,628,62c 0,628,62d 0,628,62e 0,628,645 0,628,649
0,628,64a 0,62a,62c 0,62a,62d 0,62a,62e 0,62a,645 0,62a,649 0,62a,64a 0,62b,62c 0,62b,645 0,62b,649
0,62b,64a 0,62c,62d 0,62c,645 0,62d,62c 0,62d,645 0,62e,62c 0,62e,62d 0,62e,645 0,633,62c 0,633,62d
0,633,62e 0,633,645 0,635,62d 0,635,645 0,636,62c 0,636,62d 0,636,62e 0,636,645 0,637,62d 0,637,645
0,638,645 0,639,62c 0,639,645 0,63a,62c 0,63a,645 0,641,62c 0,641,62d 0,641,62e 0,641,645 0,641,649
0,641,64a 0,642,62d 0,642,645 0,642,649 0,642,64a 0,643,627 0,643,62c 0,643,62d 0,643,62e 0,643,644
0,643,645 0,643,649 0,643,64a 0,644,62c 0,644,62d 0,644,62e 0,644,645 0,644,649 0,644,64a 0,645,62c
0,645,62d 0,645,62e 0,645,645 0,645,649 0,645,64a 0,646,62c 0,646,62d 0,646,62e 0,646,645 0,646,649
0,646,64a 0,647,62c 0,647,645 0,647,649 0,647,64a 0,64a,62c 0,64a,62d 0,64a,62e 0,64a,645 0,64a,649
0,64a,64a 0,630,670 0,631,670 0,649,670 0,20,64c,651 0,20,64d,651 0,20,64e,651 0,20,64f,651
0,20,650,651 0,20,651,670 0,626,631 0,626,632 0,626,645 0,626,646 0,626,649 0,626,64a 0,628,631
0,628,632 0,628,645 0,628,646 0,628,649 0,628,64a 0,62a,631 0,62a,632 0,62a,645 0,62a,646 0,62a,649
0,62a,64a 0,62b,631 0,62b,632 0,62b,645 0,62b,646 0,62b,649 0,62b,64a 0,641,649 0,641,64a 0,642,649
0,642,64a 0,643,627 0,643,644 0,643,645 0,643,649 0,643,64a 0,644,645 0,644,649 0,644,64a 0,645,627
0,645,645 0,646,631 0,646,632 0,646,645 0,646,646 0,646,649 0,646,64a 0,649,670 0,64a,631 0,64a,632
0,64a,645 0,64a,646 0,64a,649 0,64a,64a 0,626,62c 0,626,62d 0,626,62e 0,626,645 0,626,647 0,628,62c
0,628,62d 0,628,62e 0,628,645 0,628,647 0,62a,62c 0,62a,62d 0,62a,62e 0,62a,645 0,62a,647 0,62b,645
0,62c,62d 0,62c,645 0,62d,62c 0,62d,645 0,62e,62c 0,62e,645 0,633,62c 0,633,62d 0,633,62e 0,633,645
0,635,62d 0,635,62e 0,635,645 0,636,62c 0,636,62d 0,636,62e 0,636,645 0,637,62d 0,638,645 0,639,62c
0,639,645 0,63a,62c 0,63a,645 0,641,62c 0,641,62d 0,641,62e 0,641,645 0,642,62d 0,642,645 0,643,62c
0,643,62d 0,643,62e 0,643,644 0,643,645 0,644,62c 0,644,62d 0,644,62e 0,644,645 0,644,647 0,645,62c
0,645,62d 0,645,62e 0,645,645 0,646,62c 0,646,62d 0,646,62e 0,646,645 0,646,647 0,647,62c 0,647,645
0,647,670 0,64a,62c 0,64a,62d 0,64a,62e 0,64a,645 0,64a,647 0,626,645 0,626,647 0,628,645 0,628,647
0,62a,645 0,62a,647 0,62b,645 0,62b,647 0,633,645 0,633,647 0,634,645 0,634,647 0,643,644 0,643,645
0,644,645 0,646,645 0,646,647 0,64a,645 0,64a,647 0,640,64e,651 0,640,64f,651 0,640,650,651
0,637,649 0,637,64a 0,639,649 0,639,64a 0,63a,649 0,63a,64a 0,633,649 0,633,64a 0,634,649 0,634,64a
0,62d,649 0,62d,64a 0,62c,649 0,62c,64a 0,62e,649 0,62e,64a 0,635,649 0,635,64a 0,636,649 0,636,64a
0,634,62c 0,634,62d 0,634,62e 0,634,645 0,634,631 0,633,631 0,635,631 0,636,631 0,637,649 0,637,64a
0,639,649 0,639,64a 0,63a,649 0,63a,64a 0,633,649 0,633,64a 0,634,649 0,634,64a 0,62d,649 0,62d,64a
0,62c,649 0,62c,64a 0,62e,649 0,62e,64a 0,635,649 0,635,64a 0,636,649 0,636,64a 0,634,62c 0,634,62d
0,634,62e 0,634,645 0,634,631 0,633,631 0,635,631 0,636,631 0,634,62c 0,634,62d 0,634,62e 0,634,645
0,633,647 0,634,647 0,637,645 0,633,62c 0,633,62d 0,633,62e 0,634,62c 0,634,62d 0,634,62e 0,637,645
0,638,645 0,627,64b 0,627,64b 12,62a,62c,645 0,62a,62d,62c 0,62a,62d,62c 0,62a,62d,645
0,62a,62e,645 0,62a,645,62c 0,62a,645,62d 0,62a,645,62e 0,62c,645,62d 0,62c,645,62d 0,62d,645,64a
0,62d,645,649 0,633,62d,62c 0,633,62c,62d 0,633,62c,649 0,633,645,62d 0,633,645,62d 0,633,645,62c
0,633,645,645 0,633,645,645 0,635,62d,62d 0,635,62d,62d 0,635,645,645 0,634,62d,645 0,634,62d,645
0,634,62c,64a 0,634,645,62e 0,634,645,62e 0,634,645,645 0,634,645,645 0,636,62d,649 0,636,62e,645
0,636,62e,645 0,637,645,62d 0,637,645,62d 0,637,645,645 0,637,645,64a 0,639,62c,645 0,639,645,645
0,639,645,645 0,639,645,649 0,63a,645,645 0,63a,645,64a 0,63a,645,649 0,641,62e,645 0,641,62e,645
0,642,645,62d 0,642,645,645 0,644,62d,645 0,644,62d,64a 0,644,62d,649 0,644,62c,62c 0,644,62c,62c
0,644,62e,645 0,644,62e,645 0,644,645,62d 0,644,645,62d 0,645,62d,62c 0,645,62d,645 0,645,62d,64a
0,645,62c,62d 0,645,62c,645 0,645,62e,62c 0,645,62e,645 2,645,62c,62e 0,647,645,62c 0,647,645,645
0,646,62d,645 0,646,62d,649 0,646,62c,645 0,646,62c,645 0,646,62c,649 0,646,645,64a 0,646,645,649
0,64a,645,645 0,64a,645,645 0,628,62e,64a 0,62a,62c,64a 0,62a,62c,649 0,62a,62e,64a 0,62a,62e,649
0,62a,645,64a 0,62a,645,649 0,62c,645,64a 0,62c,62d,649 0,62c,645,649 0,633,62e,649 0,635,62d,64a
0,634,62d,64a 0,636,62d,64a 0,644,62c,64a 0,644,645,64a 0,64a,62d,64a 0,64a,62c,64a 0,64a,645,64a
0,645,645,64a 0,642,645,64a 0,646,62d,64a 0,642,645,62d 0,644,62d,645 0,639,645,64a 0,643,645,64a
0,646,62c,62d 0,645,62e,64a 0,644,62c,645 0,643,645,645 0,644,62c,645 0,646,62c,62d 0,62c,62d,64a
0,62d,62c,64a 0,645,62c,64a 0,641,645,64a 0,628,62d,64a 0,643,645,645 0,639,62c,645 0,635,645,645
0,633,62e,64a 0,646,62c,64a 28,635,644,6d2 0,642,644,6d2 0,627,644,644,647 0,627,643,628,631
0,645,62d,645,62f 0,635,644,639,645 0,631,633,648,644 0,639,644,64a,647 0,648,633,644,645
0,635,644,649 0,635,644,649,20,627,644,644,647,20,639,644,64a,647,20,648,633,644,645
0,62c,644,20,62c,644,627,644,647 0,631,6cc,627,644 13,2c 0,3001 1,3a 0,3b 0,21 0,3f 0,3016 0,3017
18,2014 0,2013 0,5f 0,5f 0,28 0,29 0,7b 0,7d 0,3014 0,3015 0,3010 0,3011 0,300a 0,300b 0,3008
0,3009 6,5b 0,5d 0,20,305 0,20,305 0,20,305 0,20,305 0,5f 0,5f 0,5f 0,2c 0,3001 2,3b 0,3a 0,3f 0,21
0,2014 0,28 0,29 0,7b 0,7d 0,3014 0,3015 0,23 0,26 0,2a 0,2b 0,2d 0,3c 0,3e 0,3d 1,5c 0,24 0,25
0,40 4,20,64b 0,640,64b 0,20,64c 1,20,64d 1,20,64e 0,640,64e 0,20,64f 0,640,64f 0,20,650 0,640,650
0,20,651 0,640,651 0,20,652 0,640,652 0,621 0,622 0,622 0,623 0,623 0,624 0,624 0,625 0,625 0,626
0,626 0,626 0,626 0,627 0,627 0,628 0,628 0,628 0,628 0,629 0,629 0,62a 0,62a 0,62a 0,62a 0,62b
0,62b 0,62b 0,62b 0,62c 0,62c 0,62c 0,62c 0,62d 0,62d 0,62d 0,62d 0,62e 0,62e 0,62e 0,62e 0,62f
0,62f 0,630 0,630 0,631 0,631 0,632 0,632 0,633 0,633 0,633 0,633 0,634 0,634 0,634 0,634 0,635
0,635 0,635 0,635 0,636 0,636 0,636 0,636 0,637 0,637 0,637 0,637 0,638 0,638 0,638 0,638 0,639
0,639 0,639 0,639 0,63a 0,63a 0,63a 0,63a 0,641 0,641 0,641 0,641 0,642 0,642 0,642 0,642 0,643
0,643 0,643 0,643 0,644 0,644 0,644 0,644 0,645 0,645 0,645 0,645 0,646 0,646 0,646 0,646 0,647
0,647 0,647 0,647 0,648 0,648 0,649 0,649 0,64a 0,64a 0,64a 0,64a 0,644,622 0,644,622 0,644,623
0,644,623 0,644,625 0,644,625 0,644,627 0,644,627 62,2985 0,2986 0,2e 0,300c 0,300d 0,3001 0,30fb
0,30f2 0,30a1 0,30a3 0,30a5 0,30a7 0,30a9 0,30e3 0,30e5 0,30e7 0,30c3 0,30fc 0,30a2 0,30a4 0,30a6
0,30a8 0,30aa 0,30ab 0,30ad 0,30af 0,30b1 0,30b3 0,30b5 0,30b7 0,30b9 0,30bb 0,30bd 0,30bf 0,30c1
0,30c4 0,30c6 0,30c8 6,30d2 0,30d5 0,30d8 0,30db 5,30e4 0,30e6 6,30ef 0,30f3 0,3099 0,309a 1,1100
0,1101 0,11aa 0,1102 0,11ac 0,11ad 9,111a 3,1121 2b,a2 0,a3 0,ac 0,20,304 0,a6 0,a5 0,20a9 1,2502
4,25a0 0,25cb 5a5,105bb 0,105bc 1eb,2d0 0,2d1 0,e6 0,299 0,253 1,2a3 0,ab66 0,2a5 0,2a4 0,256 0,257
0,1d91 0,258 0,25e 0,2a9 0,264 0,262 0,260 0,29b 0,127 0,29c 0,267 0,284 0,2aa 0,2ab 0,26c 0,1df04
0,a78e 0,26e 0,1df05 0,28e 0,1df06 0,f8 0,276 0,277 0,71 0,27a 0,1df08 0,27d 0,27e 0,280 0,2a8
0,2a6 0,ab67 0,2a7 0,288 0,2c71 1,28f 0,2a1 0,2a2 0,298 3,1df0a 0,1df1e cce1,61 1,63 0,64 2,67 2,6a
0,6b 14,66 48,61 0,62 32,61 0,62 c,6f 15d,131 0,237 13,3b8 7,2207 11,3c3 7,2202 0,3b5 0,3b8 0,3ba
0,3c6 0,3c1 0,3c0 11,3b8 7,2207 11,3c3 7,2202 0,3b5 0,3b8 0,3ba 0,3c6 0,3c1 0,3c0 11,3b8 7,2207
11,3c3 7,2202 0,3b5 0,3b8 0,3ba 0,3c6 0,3c1 0,3c0 11,3b8 7,2207 11,3c3 7,2202 0,3b5 0,3b8 0,3ba
0,3c6 0,3c1 0,3c0 11,3b8 7,2207 11,3c3 7,2202 0,3b5 0,3b8 0,3ba 0,3c6 0,3c1 0,3c0 0,3dd 0,3dd
87b,44b 0,44d 0,44e 0,a689 0,4d9 0,456 0,458 0,4e9 0,4af 0,4cf 9,43a 0,43b 0,43e 0,43f 0,441 6,44a
0,44b 0,491 0,456 0,455 0,45f 0,4ab 0,a651 0,4b1 d92,627 0,628 0,62c 0,62f 1,648 0,632 0,62d 0,637
0,64a 4,633 0,639 0,641 0,635 0,642 0,631 0,634 0,62a 0,62b 0,62e 0,630 0,636 0,638 0,63a 0,66e
0,6ba 0,6a1 0,66f 1,628 0,62c 1,647 2,62d 1,64a 4,633 0,639 0,641 0,635 0,642 1,634 0,62a 0,62b
0,62e 1,636 1,63a 6,62c 4,62d 1,64a 1,644 1,646 0,633 0,639 1,635 0,642 1,634 2,62e 1,636 1,63a
1,6ba 1,66f 1,628 0,62c 1,647 2,62d 0,637 0,64a 0,643 1,645 0,646 0,633 0,639 0,641 0,635 0,642
1,634 0,62a 0,62b 0,62e 1,636 0,638 0,63a 0,66e 1,6a1 1,627 0,628 0,62c 0,62f 0,647 0,648 0,632
0,62d 0,637 0,64a 4,633 0,639 0,641 0,635 0,642 0,631 0,634 0,62a 0,62b 0,62e 0,630 0,636 0,638
0,63a 5,628 0,62c 0,62f 1,648 0,632 0,62d 0,637 0,64a 4,633 0,639 0,641 0,635 0,642 0,631 0,634
0,62a 0,62b 0,62e 0,630 0,636 0,638 0,63a 245,30,2c 0,31,2c 0,32,2c 0,33,2c 0,34,2c 0,35,2c 0,36,2c
0,37,2c 0,38,2c 0,39,2c 5,28,61,29 0,28,62,29 0,28,63,29 0,28,64,29 0,28,65,29 0,28,66,29
0,28,67,29 0,28,68,29 0,28,69,29 0,28,6a,29 0,28,6b,29 0,28,6c,29 0,28,6d,29 0,28,6e,29 0,28,6f,29
0,28,70,29 0,28,71,29 0,28,72,29 0,28,73,29 0,28,74,29 0,28,75,29 0,28,76,29 0,28,77,29 0,28,78,29
0,28,79,29 0,28,7a,29 0,3014,73,3015 0,63 0,72 0,63,64 0,77,7a 1b,68,76 0,6d,76 0,73,64 0,73,73
0,70,70,76 0,77,63 1a,6d,63 0,6d,64 0,6d,72 23,64,6a 6f,307b,304b 0,30b3,30b3 0,30b5 d,624b 0,5b57
0,53cc 0,30c7 0,4e8c 0,591a 0,89e3 0,5929 0,4ea4 0,6620 0,7121 0,6599 0,524d 0,5f8c 0,518d 0,65b0
0,521d 0,7d42 0,751f 0,8ca9 0,58f0 0,5439 0,6f14 0,6295 0,6355 0,4e00 0,4e09 0,904a 0,5de6 0,4e2d
0,53f3 0,6307 0,8d70 0,6253 0,7981 0,7a7a 0,5408 0,6e80 0,6709 0,6708 0,7533 0,5272 0,55b6 0,914d
4,3014,672c,3015 0,3014,4e09,3015 0,3014,4e8c,3015 0,3014,5b89,3015 0,3014,70b9,3015
0,3014,6253,3015 0,3014,76d7,3015 0,3014,52dd,3015 0,3014,6557,3015 7,5f97 0,53ef"

end TunnelDial.DomainName
