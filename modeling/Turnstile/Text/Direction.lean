/-!
The direction a character is written in, and the rule that keeps a label with characters of both
directions readable: it is of one direction as a whole.
-/

namespace Turnstile.Text

/-- How a character takes part in the order of a line. -/
inductive Direction where
  /-- Written left to right. -/
  | left
  /-- Written right to left. -/
  | right
  /-- Letter of the Arabic script or one like it, right to left. -/
  | arabic
  /-- Digit of the common kind. -/
  | digit
  /-- Digit of the Arabic kind. -/
  | arabicDigit
  /-- Sign within numbers, such as plus and minus. -/
  | sign
  /-- Mark at a number, such as a currency. -/
  | terminator
  /-- Separator in numbers, such as comma and dot. -/
  | separator
  /-- Mark that takes the direction of what it is on. -/
  | mark
  /-- Without effect. -/
  | neutralBoundary
  /-- Symbol that takes the direction around it. -/
  | neutral
  /-- Blank, end of a line, or a control of the direction. -/
  | control
  deriving DecidableEq, Repr, Inhabited

namespace Direction

/-- The directions by their letters in the table. -/
def ofLetter? : Char → Option Direction
  | 'L' => some left
  | 'R' => some right
  | 'A' => some arabic
  | 'E' => some digit
  | 'N' => some arabicDigit
  | 'S' => some sign
  | 'T' => some terminator
  | 'C' => some separator
  | 'M' => some mark
  | 'B' => some neutralBoundary
  | 'O' => some neutral
  | 'X' => some control
  | _ => none

/-- The table: a direction, then how many code points in a row have it. -/
def tableLines : List String :=
  ["B9X5B14X5O2T3O5SCSC2E10CO6L26O6L26O4B6XB26COT4O4LO2BO2T2E2OLO3ELO5L23OL31OL449O2L7O14L2O14L5O9",
   "LO17M112L4O2L8OL5O2LOL110OL140M7L256OL2O2TRM45RMRM2RM2RMR56N6O2AT2ACAO2M11A48M21N10TN2A3MA101",
   "M7NOM6A2M2OM4A2E10A23MA30M27A91M11A15R43M9R2O4R3MR24M4RM9RM3RM5R43M3R4A48N2A6M8A42M24NM32L55ML",
   "ML4M8L4ML3M7L10M2L29ML58ML4M4L8ML20M2L14T2L7TL2ML2M2L57ML4M2L4M2L2M3L3ML30M2L3ML11M2L57ML4M5L",
   "M2L4ML20M2L13TL8M6LML58ML2MLM4L8ML7M2L11M2L30ML61ML12ML37O6TOL5ML3ML55MLM3L5M3LM4L7M2L11M2L20",
   "O7L2ML58ML15M2L20M2L28M2L57M2L4M4L8ML20M2L29ML72ML7M3LML90ML2M7L4TL7M8L98ML2M9L11M7L73M2L27MLM",
   "LMO4L51M14LM5LM2L5M11LM36L9ML102M4LM6LM2L2M2L25M2L4M3L16M4L13ML2M2L6ML15ML703M3L48O10L102OL639",
   "XL26O2L117M3L29M2L30M2L30M2L64M2LM7L8ML2M11L7TLML18O10L6O11M3BML117M2L34ML118M3L4M2L9ML6M3L4O",
   "L3O2L152O34L23M2L2ML58MLM7LMLML2M8L6M10L2ML48M31L49M4L48MLM5LML5ML40M9L12M2L32M4L2M2LM3L56MLM2",
   "L3MLM3L58M8L2M2L152M3LM13LM7L4ML6ML3M2L198M64L445OLO3L11O3L13O3L13O3L13O2LX11B3LRO24X7CT5O15C",
   "O26XB6X4B6EL3E6S2O3LE10S2O3L17T48M33L15O2LO4LO2L10OLO3L5O6LOLOLOL4TL11O2L4O5L5O4L2O16L41O3L4",
   "O130STO290L69O26LO145L25O11L21O40E20L78O450LO339L256O628L2O32LO105L229O6L4M3L7O7L127ML96M32O94",
   "L34O26LO89L12O214L26O12L4XO4L3O25L9M4L2OL5O2L5O3L89M2O2L3OL90OL196O36L57O2L49O16L28O3L50O15L12",
   "O4L167O4L99O2L31OL6592O64L22160O55L326O3L95M4OM10O2L30M2L80M2L14O34L102OL121ML3ML4ML25M2LO4M",
   "L11T2L58O4L76M2L26M18L13ML38M8L25M11L46M3L48ML2M4L2M2L39ML67M6L2M2L2M2L12ML8ML47ML51MLM3L2M2L5",
   "M2LML42M2L8ML115O2L121ML2ML4ML20271RMR10SR38A494O18A127OB32A13O3M16O10L6M16O32COCLOCO9TO2S2O3L",
   "OT2OL4A143BLO2T3O5SCSC2E10CO6L26O6L26O11L122T2O3T2LO7LB9O5B2L257OL62O77L3O13L3OL92ML226ME27",
   "L122M5L1157R287OR225M3RM2R5M4R40M3R4MR165M2R82O7R448A36M4A8N10A6R288N31R44M2R19A61M3R48A22M11",
   "A31R18M4R122LML54M15L11O20L10ML2M2L10M3L49M4L2M2L7ML61M3L36M5LM8L62ML12M2L52M9L10M4L2ML95M3L2M",
   "LM2L6ML2ML157ML3M8L21M2L57M2L3ML37M7L3M5L195M8L2M3LML23ML84M6LML4M2LM2L238M4L6M2LM2L27M2L85M8",
   "L2MLM2L31O13L62MLML2M6LML101M3L2M4LM5L259M9LM2L256M2LML4ML144M4L2M2L4ML32M6L2M2L40M6L2M4L8ML9",
   "M6L2M3L46M13LM2L406M7LM6L84M22L2M7LM2LM2L122M6L3MLM2LM7LML72M2L3MLML347M2L11M2L52M5L5MLML146O8",
   "T4O17L5198ML6M15L13978M5L59M7L1048ML63M4L79OLML19640M2LB4L4700M46L2M23L544M3L9B8M8L2M7L30M4L59",
   "O2L21O66M3OL186O87L900OL57OL57OL57OL57OL10E50L512M55L4M50L8ML14ML22M5LM15L1360M7LM17L2M7LM2LM5",
   "L100ML160M7L375ML61M4L15TL492M4L784R208M7R109M7R805A80R64A80R176A240O2A14R256O44L4O100L12O15L2",
   "O15LO15LO37L10E11O5L31OL58O6L61OL178O6L154O984L4O17L3O13L3O119L4O95L6O12L4OL15O12L4O56L8O10L6",
   "O40L8O30L2O2L78O340L12O14L2O13L3O9L7O46LO7L8O14L4O9L7O9L7O147LO55L37E10L1028B2L65534B2L65534B2",
   "L65534B2L65534B2L65534B2L65534B2L65534B2L65534B2L65534B2L65534B2L65534B2L65534B258M240B3600",
   "L61438B2L65534B2L65534B2"]

/-- The direction of the code point `n` places after the start of the open run, which has the given
direction and, as far as its digits were read, the given length; zero while none was read. -/
def find (n : Nat) (direction : Direction) (count : Nat) : List Char → Direction
  | [] => direction
  | c :: rest =>
    if c.isDigit then find n direction (count * 10 + (c.toNat - 48)) rest
    else
      let size := max count 1
      if n < size then direction
      else find (n - size) ((ofLetter? c).getD direction) 0 rest

end Direction

/-- The direction of a character. -/
def direction (c : Char) : Direction :=
  match Direction.tableLines.flatMap String.toList with
  | first :: rest => Direction.find c.toNat ((Direction.ofLetter? first).getD .left) 0 rest
  | [] => .left

/-- A text with a character from right to left. -/
def isRightToLeft (cs : List Char) : Bool :=
  cs.any fun c => [.right, .arabic, .arabicDigit].contains (direction c)

/-- The direction of the last character that is not a mark. -/
def endDirection? (cs : List Char) : Option Direction :=
  (cs.reverse.map direction).find? (· ≠ .mark)

/-- The label is of one direction: it starts with a letter, ends with a letter or digit of the same
direction, and has no letters of the other; one from right to left has one kind of digits. -/
def isOneDirection (cs : List Char) : Bool :=
  let neutrals : List Direction :=
    [.digit, .sign, .separator, .terminator, .neutral, .neutralBoundary, .mark]
  let directions := cs.map direction
  match directions with
  | [] => true
  | .left :: _ =>
    directions.all (fun d => d = .left || neutrals.contains d) &&
      (endDirection? cs).any (fun d => d = .left || d = .digit)
  | .right :: _ | .arabic :: _ =>
    directions.all
        (fun d => d = .right || d = .arabic || d = .arabicDigit || neutrals.contains d) &&
      (endDirection? cs).any
        (fun d => d = .right || d = .arabic || d = .arabicDigit || d = .digit) &&
      !(directions.contains .digit && directions.contains .arabicDigit)
  | _ => false

end Turnstile.Text
