import Ambient.Unicode.CodeSet

namespace Ambient.Unicode

/-!
# Simple case folding

Two characters differ only in case when they fold to the same character. The
table lists runs of characters that fold to another: the first of them, the
step to the next, how many there are, and what the first folds to.
-/

def foldingTable : String :=
"65/1/26/97 181/1/1/956 192/1/23/224 216/1/7/248 256/2/24/257 306/2/3/307 313/2/8/314
330/2/23/331 376/1/1/255 377/2/3/378 383/1/1/115 385/1/1/595 386/2/2/387 390/1/1/596
391/1/1/392 393/1/2/598 395/1/1/396 398/1/1/477 399/1/1/601 400/1/1/603 401/1/1/402
403/1/1/608 404/1/1/611 406/1/1/617 407/1/1/616 408/1/1/409 412/1/1/623 413/1/1/626
415/1/1/629 416/2/3/417 422/1/1/640 423/1/1/424 425/1/1/643 428/1/1/429 430/1/1/648
431/1/1/432 433/1/2/650 435/2/2/436 439/1/1/658 440/1/1/441 444/1/1/445 452/1/1/454
453/1/1/454 455/1/1/457 456/1/1/457 458/1/1/460 459/2/9/460 478/2/9/479 497/1/1/499
498/2/2/499 502/1/1/405 503/1/1/447 504/2/20/505 544/1/1/414 546/2/9/547 570/1/1/11365
571/1/1/572 573/1/1/410 574/1/1/11366 577/1/1/578 579/1/1/384 580/1/1/649 581/1/1/652
582/2/5/583 837/1/1/953 880/2/2/881 886/1/1/887 895/1/1/1011 902/1/1/940 904/1/3/941
908/1/1/972 910/1/2/973 913/1/17/945 931/1/9/963 962/1/1/963 975/1/1/983 976/1/1/946
977/1/1/952 981/1/1/966 982/1/1/960 984/2/12/985 1008/1/1/954 1009/1/1/961 1012/1/1/952
1013/1/1/949 1015/1/1/1016 1017/1/1/1010 1018/1/1/1019 1021/1/3/891 1024/1/16/1104
1040/1/32/1072 1120/2/17/1121 1162/2/27/1163 1216/1/1/1231 1217/2/7/1218 1232/2/48/1233
1329/1/38/1377 4256/1/38/11520 4295/1/1/11559 4301/1/1/11565 5112/1/6/5104 7296/1/1/1074
7297/1/1/1076 7298/1/1/1086 7299/1/2/1089 7301/1/1/1090 7302/1/1/1098 7303/1/1/1123
7304/1/1/42571 7305/1/1/7306 7312/1/43/4304 7357/1/3/4349 7680/2/75/7681 7835/1/1/7777
7838/1/1/223 7840/2/48/7841 7944/1/8/7936 7960/1/6/7952 7976/1/8/7968 7992/1/8/7984
8008/1/6/8000 8025/2/4/8017 8040/1/8/8032 8072/1/8/8064 8088/1/8/8080 8104/1/8/8096
8120/1/2/8112 8122/1/2/8048 8124/1/1/8115 8126/1/1/953 8136/1/4/8050 8140/1/1/8131
8147/1/1/912 8152/1/2/8144 8154/1/2/8054 8163/1/1/944 8168/1/2/8160 8170/1/2/8058
8172/1/1/8165 8184/1/2/8056 8186/1/2/8060 8188/1/1/8179 8486/1/1/969 8490/1/1/107 8491/1/1/229
8498/1/1/8526 8544/1/16/8560 8579/1/1/8580 9398/1/26/9424 11264/1/48/11312 11360/1/1/11361
11362/1/1/619 11363/1/1/7549 11364/1/1/637 11367/2/3/11368 11373/1/1/593 11374/1/1/625
11375/1/1/592 11376/1/1/594 11378/1/1/11379 11381/1/1/11382 11390/1/2/575 11392/2/50/11393
11499/2/2/11500 11506/1/1/11507 42560/2/23/42561 42624/2/14/42625 42786/2/7/42787
42802/2/31/42803 42873/2/2/42874 42877/1/1/7545 42878/2/5/42879 42891/1/1/42892 42893/1/1/613
42896/2/2/42897 42902/2/10/42903 42922/1/1/614 42923/1/1/604 42924/1/1/609 42925/1/1/620
42926/1/1/618 42928/1/1/670 42929/1/1/647 42930/1/1/669 42931/1/1/43859 42932/2/8/42933
42948/1/1/42900 42949/1/1/642 42950/1/1/7566 42951/2/2/42952 42955/1/1/612 42956/1/1/42957
42960/1/1/42961 42966/2/3/42967 42972/1/1/411 42997/1/1/42998 43888/1/80/5024 64261/1/1/64262
65313/1/26/65345 66560/1/40/66600 66736/1/36/66776 66928/1/11/66967 66940/1/15/66979
66956/1/7/66995 66964/1/2/67003 68736/1/51/68800 68944/1/22/68976 71840/1/32/71872
93760/1/32/93792 125184/1/34/125218"

/-- A run of characters whose foldings lie equally far from them. -/
structure FoldingRun where
  first : Nat
  step : Nat
  count : Nat
  image : Nat

/-- The number between two slashes at this place of a word. -/
def fieldAt (word : List Char) (index : Nat) : Nat :=
  number (((word.splitOn '/')[index]?).getD [])

def foldingRuns : List FoldingRun :=
  (words foldingTable).map fun word =>
    ⟨fieldAt word 0, fieldAt word 1, fieldAt word 2, fieldAt word 3⟩

/-- What a run folds a code point to, if the code point is in the run. -/
def FoldingRun.fold? (run : FoldingRun) (code : Nat) : Option Nat :=
  if run.first ≤ code ∧ code < run.first + run.step * run.count ∧
      (code - run.first) % run.step = 0 then
    some (run.image + (code - run.first))
  else none

/-- The code points of a run that fold to the given one. -/
def FoldingRun.unfold (run : FoldingRun) (code : Nat) : List Nat :=
  if run.image ≤ code ∧ code < run.image + run.step * run.count ∧
      (code - run.image) % run.step = 0 then
    [run.first + (code - run.image)]
  else []

/-- The code points that differ from one only in case, itself among them. -/
def caseVariants (code : Nat) : List Nat :=
  let folded := (foldingRuns.findSome? (·.fold? code)).getD code
  folded :: foldingRuns.flatMap (·.unfold folded)

/-- The code points of a run and those that they fold to. -/
def FoldingRun.codes (run : FoldingRun) : List Nat :=
  (List.range run.count).flatMap fun i => [run.first + run.step * i, run.image + run.step * i]

/-- The code points that differ from others only in case; some come twice. -/
def casedCodes : List Nat := foldingRuns.flatMap (·.codes)

end Ambient.Unicode
