import ModuleBundler.Text.CharSet

/-!
Where graphemes, words and sentences may be broken, as of version 16 of Unicode: the tables that do
not follow from other properties.
-/

set_option autoImplicit false

namespace ModuleBundler.Text

/-- Characters that graphemes are broken at. -/
def graphemeControls : CharSet := .ofLines
  ["0 a 1 2 1 i 2n x d 1 12m 1 3jl 1 1ks 1 2 2 o 7 1d g 17yn 1 6o c ab8 g qxs 4 43z 8 h405 w 2o",
   "3k 6o 2s0"]

/-- Characters that belong to the grapheme after them. -/
def graphemePrepends : CharSet := .ofLines
  ["16o 6 5z 1 1d 1 ao 2 28 1 vf 1 1f8u 1 f 1 6s 2 el 1 12l 1 1 1 6w 1 21 6 jg 1 cb 1"]

/-- Marks that take room and do not belong to the grapheme before them. -/
def spacingMarksOutside : CharSet := .ofLines
  ["36z 2 b 1 15 3 2 7 l 1 3 6 2 1 a 3 1xg 1 1 2 sgm 1 1 1 lgi 2"]

/-- Leading consonants of Hangul. -/
def hangulLeading : CharSet := .ofLines ["3cw 2o u0w t"]

/-- Vowels of Hangul and what behaves like them. -/
def hangulVowels : CharSet := .ofLines ["3fk 20 1348 n tjw 1 3 4"]

/-- Trailing consonants of Hangul. -/
def hangulTrailing : CharSet := .ofLines ["3hk 2g 132j 1d"]

/-- Letters that words are made of. -/
def wordLetters : CharSet := .ofLines
  ["1t q 6 q 1b 1 a 1 4 1 5 n 1 v 1 dc 6 y 34 5 1 2 2 4 1 1 6 1 1 3 1 1 1 k 1 2b 1 3v 8 4m 1 12",
   "2 4 1 1 1 15 1 1 2w 1 18 17 z 2 1 2r 1 1 f 2 7 2 a 3 2 1 g 1 1 u t 2h b 1 o x 9 2 4 1 5 m 4",
   "1 9 1 3 1 n p 7 b 5 o 1 6 h 16 1m 1i 3 1 i 1 7 a f g 4 8 2 2 2 m 1 7 1 1 3 4 3 1 g 1 d 2 1",
   "3 e 2 a 1 8 6 4 2 2 m 1 7 1 2 1 2 1 2 v 4 1 1 j 3 g 9 1 3 1 m 1 7 1 2 1 5 3 1 i 1 f 2 n 1 b",
   "8 2 2 2 m 1 7 1 2 1 5 3 1 u 2 1 3 f 1 h 1 1 6 3 3 1 4 3 2 1 1 1 2 3 2 3 3 3 c m 1 1g 8 1 3",
   "1 n 1 g 3 1 q 3 2 1 2 2 u 1 4 8 1 3 1 n 1 a 1 5 3 1 v 2 1 2 f 2 h 9 1 3 1 15 2 1 g 1 5 3 8",
   "3 o 6 5 i 3 o 1 9 1 1 2 7 8p 1 1r 8 1 10 r 5 7n 12 1 1 5 1 2 17 1 99 1 4 2 7 1 1 1 4 2 15 1",
   "4 2 x 1 4 2 7 1 1 1 4 2 f 1 1l 1 4 2 1v 11 g g 2e 2 6 3 h8 2 h 1 q 5 23 3 b 7 i d j e i e d",
   "1 3 4v 2h 7 5 2 y 1 1 5 1y a v 69 n 6m 1b h 8 1i u d 2 a 18 q 10 15 3 a 10 2 b 5 17 2 3 15",
   "4 1 6 1 2 3 1 5 5c 1s 7q 2 6 2 12 2 6 2 8 1 1 1 1 1 1 1 v 2 1h 1 7 1 1 3 3 1 7 3 4 2 6 4 d",
   "5 3 1 7 38 1 d 1 g d 2t 1 4 1 2 a 1 1 3 5 6 1 1 1 1 1 1 4 1 b 2 4 5 5 4 1 h 15 ml 1g 1ee 6d",
   "6 4 3 2 c 12 1 1 5 1 2 1k 7 1 g n 9 7 1 7 1 7 1 7 1 7 1 7 1 7 1 7 28 1 d1 1 1h 2 5k 17 1 2m",
   "h w ls0 wd 1v 1a 2 7h 3 g a 2 k 1b g v 2 28 o 5i 2 2 1 1 1 8 l g 1 3 1 4 1 n t 1g e 1e 1q 6",
   "3 1 1 2 b s a n p t 7 1b s 1 1c 15 n 3 1 8 44 b 7 3 c 6 2 6 2 6 9 7 1 7 1 1m 6 37 t 8mc c n",
   "4 1d 6x0 7 c 5 1k 2q x a3 i 1s 2 1i 14 c 38 5 1 3r 10 q 6 q 1x v 3 6 2 6 2 6 2 3 z c 1 q 1",
   "j 1 2 1 f 2 e y 3f 1x 1h 7f t 3 1d 1b w d u 5 12 a u 2 10 4 8 1 5 16 4e i 10 4 10 4 14 8 1g",
   "c b 1 f 1 7 1 2 1 b 1 f 1 7 1 2 3 1g c 8n 9 m a 8 o 6 1 16 1 9 1x 6 2 1 1 18 1 2 3 1 2 n a",
   "n 9 v 1t j 1 2 a m a q 1y 1k 6 2 1s 1 f 4 1 3 1 t 16 t 3 t z 8 1 s r 1i a m a j d i 32 21",
   "1j 1f d 1f d 10 12 s 9 n 6y 16 6 2 g 3 1n t a 1 8 m 16 i 1a l r n c 1h 1l 2 2 1 d 19 w p q",
   "10 t 1 2 1 8 z 3 1 c 1c e 4 l 1 1 1 z i 1 p j 2 1r 7 1 1 1 4 1 f 1 a 7 1b 12 8 2 2 2 m 1 7",
   "1 2 1 5 3 1 i 1 c 5 u a 1 1 2 1 1 12 1 1 p 1 1 1 18 1h i 4 k 3 u 1c k 2 1 1 54 1b 15 4 10",
   "1c k 1 1n 17 d 1 93 18 38 1s v 8 2 1 2 8 1 2 1 o f 1 1 1 2m 8 2 13 g 1 1 1 s 1 a 14 7 1 l 1",
   "b 1a j 1 i 21 5j x v 9 1 11 h 1 1d u 34 7 1 2 1 12 l 1 p 6 1 2 1 w e 1 93 j f 1 1 d 1 y 3g",
   "1 27 pm 2u 33 h 5g 218 2p f ts h 6 p 32z 5 g7 5a1 u 1cy ft 7 v h 27 h u i 1c g 4 v l 5 j c0",
   "19 5v 1s 3k 23 5 1 1u d 1s 2 1 1 f18 2z 5 d 3 9 7 a 4me 2d 1 1z 1 2 2 1 2 2 2 4 1 c 1 1 1 7",
   "1 1t 1 4 2 8 1 7 1 s 1 4 1 5 1 1 3 7 1 9g 2 p 1 p 1 v 1 p 1 v 1 p 1 v 1 p 1 v 1 p 1 8 1f8 v",
   "6 6 79 1q 42 19 a 7 g 1 8x u i 18 dg s 6c u 2 1 dr 7 1 4 1 2 1 f 1 5h 1n 1w 7 1 xg 4 1 r 1",
   "2 1 1 2 1 1 a 1 4 1 1 1 1 6 1 4 1 1 1 1 1 1 3 1 2 1 1 2 1 1 1 1 1 1 1 1 1 1 2 1 1 2 4 1 7 1",
   "4 1 4 1 1 1 a 1 h 5 3 1 5 1 h hg q 6 q 6 q"]

/-- Characters that format words. -/
def wordFormats : CharSet := .ofLines
  ["4t 1 11u 6 m 1 5c 1 1d 1 ao 2 28 1 2zv 1 1kv 2 q 5 1d 5 1 a 17yn 1 6x 3 3b5 1 f 1 6zm g qxs",
   "4 43z 8 h406 1"]

/-- Katakana. -/
def katakanaWords : CharSet := .ofLines
  ["9ip 5 2t 2 3 2j 1 4 6o g 5s 1b 1 2g 14b2 1k ytu 4 1 7 1 2 1 1 7z 3 1e 1 e 4"]

/-- Letters of Hebrew. -/
def hebrewLetters : CharSet := .ofLines ["15c r 4 4 1cfe 1 1 a 1 d 1 5 1 1 1 2 1 2 1 a"]

/-- Characters inside words. -/
def midLetters : CharSet := .ofLines ["1m 1 3g 1 jz 1 d3 1 44 1 56a 1 17u3 1 1t 1 5g 1"]

/-- Characters inside numbers. -/
def midNumbers : CharSet := .ofLines
  ["18 1 e 1 n6 1 ei 1 3m 2 2m 1 az 1 4sr 1 17t7 1 3 1 1n 1 3 1 53 1 e 1"]

/-- Characters inside words and numbers. -/
def midLettersAndNumbers : CharSet := .ofLines ["1a 1 6ax 2 a 1 17vx 1 50 1 6 1"]

/-- Characters that extend numbers and words. -/
def wordConnectors : CharSet := .ofLines ["2n 1 6a7 1 f 2 j 1 17tq 2 o 3 6n 1"]

/-- Blanks between words. -/
def wordBlanks : CharSet := .ofLines ["w 1 4f3 1 1vj 7 1 3 2c 1 334 1"]

/-- Ends of lines, as far as words go, two apart. -/
def wordNewlines : CharSet := .ofLines ["b 2 3c 1 68y 2"]

/-- Characters of numbers in words that are no digits. -/
def wordNumerics : CharSet := .ofLines ["19n 1"]

/-- Characters of numbers in sentences that are no digits. -/
def sentenceNumerics : CharSet := .ofLines ["19n 2"]

/-- Points that may end sentences. -/
def sentencePoints : CharSet := .ofLines ["1a 1 6b9 1 17vx 1 57 1"]

/-- Characters that close after sentences. -/
def sentenceCloses : CharSet := .ofLines
  ["y 1 4 3 1d 1 1 1 t 1 1 1 19 1 f 1 2v2 4 1gd 2 1vf 8 p 2 a 2 1i 2 e 2 hl 4 t 2 ts 6 7 e 27 2",
   "v a b7 m 1r 4 w 2 si e e 2 2 a o 1 i 8 bv a 2 8 1 3 14im 2 5z 2 s g 2 2 g 6 4p 2 1d 1 1 1 t",
   "1 1 1 1 2 1 2 1csy 3"]

/-- Characters that format sentences. -/
def sentenceFormats : CharSet := .ofLines
  ["4t 1 11u 6 m 1 5c 1 1d 1 ao 2 28 1 2zv 1 1ks 1 2 2 q 5 1d 5 1 a 17yn 1 6x 3 3b5 1 f 1 6zm g",
   "qxs 4 43z 8 h406 1"]

/-- Characters that sentences go on after. -/
def sentenceContinues : CharSet := .ofLines
  ["18 2 c 1 10i 1 4u 2 dm 1 361 1 5 1 1l6 2 358 1 14pa 2 1 1 t 2 t 2 3 1 2 1 a 1 4o 2 c 1 21 1"]

/-- Separators of sentences, two apart. -/
def sentenceSeparators : CharSet := .ofLines ["3p 1 68y 2"]

/-- Blanks in sentences. -/
def sentenceBlanks : CharSet := .ofLines ["9 1 1 2 j 1 3j 1 4bj 1 1vj b 10 1 1b 1 334 1"]

/-- Punctuation that ends sentences, points apart. -/
def sentenceEnds : CharSet := .ofLines
  ["x 1 t 1 11l 1 43 3 50 1 17 3 6u 1 1p 1 1 1 3 2 85 2 1d0 2 ly 1 4 2 lh 1 5i 2 4d 2 19 1 5 1",
   "8q 2 9u 4 4i 2 a 2 2 2 t 3 57 2 1t 2 qk 2 9 3 2i7 3 8i 1 d 1 m 2 bx 1 n3w 1 7i 2 6b 1 3 1",
   "am 2 2e 2 2n 1 48 2 43 3 40 2 6x 1 g86 1 2 2 1r 2 4p 1 t 1 1t 1 25w 2 zh 5 18 4 59 2 39 4",
   "3j 3 3l 2 6 1 g 2 2g 2 1 2 30 1 8a 2 39 2 ad 2 5 f 2x 2 6x 3 ed 1 1 1 6z 2 2f 2 bo 2 j8 2",
   "22 2 euh 2 3p 1 1t 2 b 1 fd 2 88 1 feu 1 5wo 1"]

/-- Characters with case that count as letters without it. -/
def sentenceCased : CharSet := .ofLines ["3bk 17 2 3 2a8 17 2 3"]

end ModuleBundler.Text
