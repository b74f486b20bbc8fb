import ModuleBundler.Text.CharSet

/-!
Characters that differ in case alone, as of version 16 of Unicode. Comparing texts without regard
to case takes them for the same. Most of them come in pairs, and pairs in runs.
-/

set_option autoImplicit false

namespace ModuleBundler.Text

/-- Pairs of characters that differ in case alone: so many pairs, of which the first one is `first`
and the character `distance` after it, and each pair stands `step` after the one before. -/
structure CaseRun where
  first : Nat
  count : Nat
  step : Nat
  distance : Nat
deriving Repr, DecidableEq

namespace CaseRun

/-- The pairs of a run. -/
def pairs (r : CaseRun) : List (Nat × Nat) :=
  (List.range r.count).map fun i => (r.first + r.step * i, r.first + r.step * i + r.distance)

/-- Runs from numbers, four for each of them. -/
def ofNumbers : List Nat → List CaseRun
  | first :: count :: step :: distance :: rest =>
    ⟨first, count, step, distance⟩ :: ofNumbers rest
  | _ => []

end CaseRun

/-- All pairs, four numbers in base 36 for each run of them. -/
def caseRuns : List CaseRun := CaseRun.ofNumbers (CharSet.numbersOf
  ["1t q 1 w 23 1 1 6hr 2b 1 1 8c 51 1 1 kn 5c n 1 w 5h 1 1 6ee 60 7 1 w 67 1 1 5vj 73 1 1 3d",
   "74 o 2 1 8i 3 2 1 8p 8 2 1 96 n 2 1 ah 3 2 1 ao 1 1 5f ap 1 1 5u aq 2 2 1 au 1 1 5q av 2 4 1",
   "ax 2 1 5p b2 1 1 27 b3 1 1 5m b4 1 1 5n b5 2 7 1 b7 1 1 5p b8 1 1 5r b9 1 1 2p ba 2 6 5v",
   "bb 1 1 5t be 1 1 4j bf 1 1 wu9 bh 1 1 5x bi 1 1 3m bj 1 1 5y bk 3 2 1 bq 2 3 62 br 2 5 1",
   "by 1 1 62 bz 2 4 1 c1 2 1 61 c5 2 3 1 c7 1 1 63 cc 2 8 1 cf 1 1 1k ck 3 3 2 cn 4 6 1",
   "cq 2 5 1 cx 2 4 1 d3 2 4 1 da 9 2 1 dt 2 3 1 dt 1 1 2 e0 k 2 1 f6 9 2 1 fu 1 1 8bv fv 2 6 1",
   "fy 1 1 8bs fz 2 1 8cf g4 1 1 1x g5 1 1 1z g6 5 2 1 gg 1 1 8bj gh 1 1 8bg gi 1 1 8bi",
   "gs 1 1 wnj gx 1 1 wnf h0 1 1 wo7 h1 1 1 wmg h2 2 4 wn8 h7 1 1 8af h8 1 1 wn5 hd 1 1 8al",
   "hp 1 1 89z hu 1 1 wn7 hz 1 1 wmi il 1 1 wlx im 1 1 wlu n9 1 1 2c og 2 2 1 om 1 1 1 or 3 1 3m",
   "ov 1 1 38 p2 1 1 12 p4 3 1 11 p8 1 1 1s pa 2 1 1r pc 1 1 5kz pd h 1 w pe 1 1 1q ph 1 1 2o",
   "pk 1 1 1l pk 1 1 2k pl 1 1 5k5 pm 1 1 2e ps 1 1 1i pt 1 1 28 pv 1 1 v pv 9 1 w py 1 1 1b",
   "q1 1 1 5tp q8 1 1 5kj r3 1 1 8 rc c 2 1 s2 1 1 7 s7 2 3 1 sg g 1 28 sw w 1 w sy 1 1 4tq",
   "t0 1 1 4tp ta 1 1 4tg td 2 1 4te te 1 1 4tf tm 1 1 4t8 v4 h 2 1 v6 1 1 4rp wa r 2 1 xs 1 1 f",
   "xt 7 2 1 y8 1c 2 1 10x 12 1 1c 3a8 12 1 5ls 3bb 2 6 5ls 3bk 17 1 2bk 3ct 3 1 2bk",
   "3vk 28 1 tzk 3xs 6 1 8 5mw 1 1 r7m 5mx 1 1 1 5tl 1 1 r9g 5tp 1 1 2xy 5u6 1 1 raw 5xc 23 2 1",
   "600 1 1 1n 61s 1c 2 1 64g 8 1 8 64w 6 1 8 65c 8 1 8 65s 8 1 8 668 6 1 8 66p 4 2 8 674 8 1 8",
   "67k 2 1 22 67m 4 1 2e 67q 2 1 2s 67s 2 1 3k 67u 2 1 34 67w 2 1 3i 680 8 1 8 68g 8 1 8",
   "68w 8 1 8 69c 2 1 8 69f 1 1 9 69v 1 1 9 6a8 2 1 8 6ao 2 1 8 6at 1 1 7 6b7 1 1 9 6k2 1 1 s",
   "6lc g 1 g 6mb 1 1 1 792 q 1 q 8ow 1c 1 1c 8rk 2 7 1 8rt 2 2 1 8s2 2 3 1 8sg 1e 2 1 8vf 2 2 1",
   "8vm 1 1 1 wu8 n 2 1 ww0 e 2 1 x0i k 4 1 x0k a 8 1 x0o 1 1 1 x14 7 8 1 x2x 2 2 1 x32 5 2 1",
   "x3f 2 5 1 x3m 6 4 1 x3o 1 1 1c x3s 5 4 1 x4j 1 1 ps x4k 8 2 1 x53 2 2 1 x58 2 4 1 x5i 3 2 1",
   "x6d 1 1 1 1dl1 1 1 1 1ee9 q 1 w 1fcw 14 1 14 1fhs 10 1 14 1fn4 j 2 13 1fn5 a 4 13",
   "1fn7 2 4 13 1fnj 3 4 13 1fnz 1 1 13 1h1c 1f 1 1s 1h74 m 1 w 1jfk w 1 w 20cg w 1 w 2olc y 1 y"])

/-- All pairs. -/
def casePairs : List (Nat × Nat) := caseRuns.flatMap (·.pairs)

namespace CharSet

/-- A set and all that form a pair with one of its members. -/
def withPartners (s : CharSet) : CharSet :=
  unions [s, ⟨casePairs.flatMap fun (a, b) =>
    (if s.has a then [(b, b + 1)] else []) ++ (if s.has b then [(a, a + 1)] else [])⟩]

/-- A set and all that differ from one of its members in case alone. Where there are more than two
such characters, one forms a pair with each of the others, so two steps reach them all. -/
def folded (s : CharSet) : CharSet := s.withPartners.withPartners

end CharSet

end ModuleBundler.Text
