import ElmPrerender.Text.Mark

/-!
The direction in which a character is written, or what it is where that does not depend on the
character alone.
-/

namespace ElmPrerender.Text

inductive Direction where
  | leftToRight
  | rightToLeft
  | europeanNumber
  | arabicNumber
  /-- Of a mark, which is written as the character before it. -/
  | nonspacing
  | neutral
  deriving DecidableEq, Repr

/-- Letters of Hebrew, Arabic and other scripts. -/
def rightToLeftRuns : Table := Table.ofText
  "5be 5c0 5c3 5c6 5d0-5f4 608 60b 60d 61b-64a 66d-66f 671-6d5 6e5-6e6 6ee-6ef 6fa-710 712-72f
   74d-7a5 7b1-7ea 7f4-7f5 7fa 7fe-815 81a 824 828 830-858 85e-88f 8a0-8c9 200f fb1d fb1f-fb28
   fb2a-fbc2 fbd3-fd3d fd50-fd8f fd92-fdc7 fdf0-fdfc fe70-fefc 10800-1091b 10920-10a00 10a10-10a35
   10a40-10ae4 10aeb-10b35 10b40-10d23 10d4a-10d65 10d6f-10d8f 10e80-10ea9 10ead-10ec7 10f00-10f45
   10f51-10f81 10f86-10ff6 1e800-1e8cf 1e900-1e943 1e94b-1eebb"

def arabicNumberRuns : Table := Table.ofText
  "600-605 660-669 66b-66c 6dd 890-891 8e2 10d30-10d49 10e60-10e7e"

def europeanNumberRuns : Table := Table.ofText
  "30-39 b2-b3 b9 6f0-6f9 2070 2074-2079 2080-2089 2488-249b ff10-ff19 102e1-102fb 1ccf0-1ccf9
   1d7ce-1d7ff 1f100-1f10a 1fbf0-1fbf9"

/-- Nonspacing marks with a direction of their own. -/
def leftToRightMarks : Table := Table.ofText
  "cbf cc6 11a07 11a08 11c3f"

/-- Signs, separators, blanks and controls. -/
def neutralRuns : Table := Table.ofText
  "0-2f 3a-40 5b-60 7b-a9 ab-b1 b4 b6-b8 bb-bf d7 f7 2b9-2ba 2c2-2cf 2d2-2df 2e5-2ed 2ef-2ff
   374-375 37e 384-385 387 3f6 58a-58f 606-607 609-60a 60c 60e-60f 66a 6de 6e9 7f6-7f9 9f2-9f3 9fb
   af1 bf3-bfa c78-c7e e3f f3a-f3d 1390-1399 1400 1680 169b-169c 17db 17f0-180a 180e 1940-1945
   19de-19ff 1fbd 1fbf-1fc1 1fcd-1fcf 1fdd-1fdf 1fed-1fef 1ffd-200d 2010-206f 207a-207e 208a-208e
   20a0-20c1 2100-2101 2103-2106 2108-2109 2114 2116-2118 211e-2123 2125 2127 2129 212e 213a-213b
   2140-2144 214a-214d 2150-215f 2189-2335 237b-2394 2396-2487 24ea-26ab 26ad-27ff 2900-2bff
   2ce5-2cea 2cf9-2cff 2e00-3004 3008-3020 3030 3036-3037 303d-303f 309b-309c 30a0 30fb 31c0-31ef
   321d-321e 3250-325f 327c-327e 32b1-32bf 32cc-32cf 3377-337a 33de-33df 33ff 4dc0-4dff a490-a4c6
   a60d-a60f a673 a67e-a67f a700-a721 a788 a828-a82b a838-a839 a874-a877 ab6a-ab6b fb29 fbc3-fbd2
   fd3e-fd4f fd90-fd91 fdc8-fdcf fdfd-fdff fe10-fe19 fe30-fe6b feff-ff0f ff1a-ff20 ff3b-ff40
   ff5b-ff65 ffe0-fffd 10101 10140-1018c 10190-101a0 1091f 10b39-10b3f 10d6e 10ed0-10ed8
   11052-11065 11660-1166c 11fd5-11ff1 16fe2 1bca0-1ccd5 1ccfa-1cef0 1d173-1d17a 1d1e9-1d241 1d245
   1d300-1d356 1d6c1 1d6db 1d6fb 1d715 1d735 1d74f 1d76f 1d789 1d7a9 1d7c3 1e2ff 1eef0-1f0f5
   1f10b-1f10f 1f12f 1f16a-1f16f 1f1ad 1f260-1fbef 1fbfa e0001-e007f"

def direction (c : Char) : Direction :=
  if rightToLeftRuns.has c then .rightToLeft
  else if arabicNumberRuns.has c then .arabicNumber
  else if europeanNumberRuns.has c then .europeanNumber
  else if neutralRuns.has c then .neutral
  else if isNonspacing c && !leftToRightMarks.has c then .nonspacing
  else .leftToRight

end ElmPrerender.Text
