/-! What the rules for labels ask of characters, in the written form of tables; Unicode 17. -/
namespace TunnelDial.DomainName

def nonspacingText : String :=
  "300,6f 113,6 107,2c 1 1,1 1,1 1 48,a 30,14 10 65,6 2,5 2,1 1,3 23 1e,1a 5b,a 3a,8 9 18,3 1,8 1,2
1,4 2b,2 3b,8 2a,38 37 1 4,7 4 3,6 a,1 1d 3a 4,3 8 14,1 1a,4 39 4,10 1e,1 3 b,1 39 4,7 4 14,1 16,7
3a 2 1,3 8,9 b,1 1e 3d c 32 3 37 1,2 5,10 b,1 1d 3a 2 6 5,1 14,1 1c,1 39,1 4,3 8 14,1 1d 48 7,4 5a
2,6 c,7 62 2,8 b,6 49,1 1b 1 1 37,d 1,4 1,1 5,2f 9 66,3 1,5 1,1 2,1 19,1 4,2 10,3 d 2,1 6 f 2bf,2
3b2,2 1d,1 1e,1 1e,1 43,6 8 2,a 9 a7,1 22 76,2 4,1 9 6,2 db,1 2 3a 1,8 1 2,7 6,c 30,53 30 1,4 1 5
28,8 c,1 20,3 2,1 1,2 38 1,1 3 1,2 3a,7 2,1 98,2 1,c 1,6 4 6 3,1 c6,3f 2d0,20 bfe,2 8d 60,1f 22a,3
6b,1 75d4,3 1,9 20,1 50,1 110 3 4 19,1 5 97,1 1a,11 d 26,7 19,a 2e,2 30 2,3 2,1 27 43,5 2,1 2,1 c 8
2f 33 1,2 2,1 5,1 1 2a,1 8 ee 2 4 4f30 301,f 3cd e2 95,4 686,e 28,7 a5,1 23d,3 41,4 13d,1 4d,5 46,a
31,3 7b 36,e 29 2,1 a,2 31,3 2,1 7 3d,2 24,4 1,7 3e c,1 34,8 a,3 2 5f,2 2 1,1 6 2 9d 3,7 15,1 39,1
3 25,e 46,5 d 1 1 e,1 55,7 2,2 1 17 54,5 1 4,1 1,1 ee,3 6,1 1,1 1b,1 55,7 2 1,1 6a 1 2,5 1 65 1 2,3
1,4 103,8 1,1 100,1 1 4 90,7 4 20,9 28,5 2,3 8 9,5 2,2 2e,c 1,1 c6 1,2 1 c9,d 1 52,15 2,6 1,1 1,1
7a,14 1 48,1 3 1 15b,1 b,1 34,4 5 1 17 14e5 6,e 2cc8,b 3,2 9c0,4 3b,6 418 3f,3 51 4cb8,1 1261,46
220,2 11,7 2,6 1e,3 94,2 7bb,36 4,31 8 e 16,14 550,8f a0,6 177 3d,3 1fc,3 fe,1 f3 2 7,1 5 1da,6
6d,6"

def spacingText : String :=
  "903 37 2,2 8,3 1,1 32,1 3a,2 6,5 a 2b 3a,2 42 3a,2 8,3 35,1 3a 1 6,5 a 66,1 1,b a 29,2 3d,3 3d,1
3a 1,4 2,4 9,1 1c e,1 3a,2 5,6 a 2a,1 4b,2 6,7 12,1 14a,1 3f ab,1 4 6 2,1 19,1 a,2 2,6 15,1 2,5 2
a,2 678 1e 81 7,7 1,1 15a,3 2,8 1,5 e0,1 3a 1 9 1,1 8,5 91 30 5 1,4 1,1 3d 1e 4,1 2 3c 2,2 1 3,1
30,7 8,1 ab 15 1336,1 77f3,1 2 58,1 32,f 8e,1 2f 30,1 4,1 2,2 6e,1 2,1 18 2d 1 6d 2,1 5 ed,1 1,1
1,1 1 6413 1 7f 2d,2 4,1 73 18,1 3b 30,2 9,1 d 5d,2 3,1 1 aa,2 1f,1 3a,1 1,c 9 a,1 54,2 7,b 1 65,2
8,1 3 6a,2 6 1,3 2 ed,2 6,3 2 71,2 8,1 1 6d 1,1 6 67 1,1 4 105,2 9 f7,8 4 2 1 8e,2 8,3 4 54 1d,1 3e
c9 3 1 c7 e 6a 7 2 d5,4 4,1 1 15e,1 c 30,1 8,1 1 41e8,2 e24,36 68,1 6173,1 6,5"

def rightToLeftText : String :=
  "5be,36 13 2 1 d,2f 22,68 f,1 7,1 a,fb 4,cf f2e8,10 2b0 98c,11b 4,215 a,1e3 1c,f 1f,20 f0,47
38,f6 d809,53d"

/-- Digits that stand among letters from right to left. -/
def arabicDigitsText : String :=
  "660,9 1,1 106c3,9 126,1e"

/-- Digits that stand in either direction. -/
def europeanDigitsText : String :=
  "6f0,9 fbe7,1a"

def neutralText : String :=
  "a1,36 1f 1c1,1 7,d 2,1b 1,10 75 80 193,5 76,1 1,1 1 1,1 5a 73 a 10c,3 1f8,1 7 f5 101,7 7d,6 1c0
fa,3 452,9 66 29a,1 13e 14,1a 135,5 98,21 60c,141 3c,1ab 45,19 1,315 1,152 100,2ff e5,5 e,6 100,204
3,18 f 6 5,2 60 5a c4,25 1bda,3f 5690,36 146,2 63,c 80,21 66 9f,3 c,1 3a,3 2f2,1 5057,283 2ba 3e,4c
3,10 77e 219,6 22e 161,8 179,13 5fa,c 968,1c 4ff0 5c1d,2f0 2f8,5c ba,56 fa8 bf0,23f 3d,2 3d b2,99a"

def joinsNextText : String :=
  "a872 625a 9 228 2ca"

def joinsBothText : String :=
  "620 5 1 1,4 4,c 1,6 1,1 23,1 9,e 12,25 1,1 9 1 1,1 28,2 2 12,2 5,3 1,8 1 1 1,1 1f,a 3,e 2,3 1
2,2 2,5 4a,20 56,4 2 1,9 1 a 1,3 2 1d 2,4 1,1a 5,1 2,5 1,e f3e 18,58 e,23 8f95,31 624e,4 e,3 1,4
1,2 a,3 91 1 3,2 1,1 1 2 1c,1 152,20 1 19f,1 1,1 68,2 1,10 c,2 1c,3 2,b 2e 1,1 4 2,1 1,1 1 2 5
d957,21"

def joinsPreviousText : String :=
  "622,3 1 1 5,3 15 28,2 14,11 26 2,8 1 1 2,1 1 18,1 20 4,4 4 9 1 1 2,1e b,2 f,1 4 1,1 3,1 c6 5,1 1
a 1,2 e 1,19 b 1b,2 1 2,1 6 1020b 1 1,1 3,4 a 3 2 a 91 1,2 3 2 1,1 1 17,3 175 19f 70 20 1f,1 3e,2
2,1 2 4,1 5"

end TunnelDial.DomainName
