import Mathlib

/-!
YAML documents in block style, as they are written by hand and by
string formatting.
-/

namespace QuantaWatch.Lib.Yaml

inductive Scalar where
  | plain (text : List Char)
  | quoted (text : List Char)

def Scalar.text : Scalar → List Char
  | .plain text => text
  | .quoted text => text

inductive Node where
  | scalar (value : Scalar)
  | sequence (items : List Scalar)
  | mapping (fields : List (List Char × Node))

abbrev Block := List (List Char × Node)

def isPrintable (char : Char) : Bool :=
  let code := char.toNat
  code = 9 || (0x20 ≤ code && code ≤ 0x7e) ||
    (0xa0 ≤ code && code ≤ 0xd7ff && code ≠ 0x2028 && code ≠ 0x2029) ||
    (0xe000 ≤ code && code ≤ 0xfffd && code ≠ 0xfeff) || 0x10000 ≤ code

def isIndicator (char : Char) : Bool :=
  char ∈ ['-', '?', ':', ',', '[', ']', '{', '}', '#', '&', '*', '!', '|', '>', '"', '%', '@'] ||
    char.toNat = 0x27 || char.toNat = 0x60

def unmarked : List Char → Bool
  | [] => true
  | [char] => char ≠ ':' && char ≠ ' '
  | char :: next :: rest =>
    !(char = ':' && next = ' ') && !(char = ' ' && next = '#') && unmarked (next :: rest)

def quotedSafe (text : List Char) : Bool :=
  text.all fun char => isPrintable char && char ≠ '"' && char ≠ '\\'

def plainSafe (text : List Char) : Bool :=
  (text.head?.any fun first => !isIndicator first && first ≠ ' ') &&
    (text.all fun char => isPrintable char && char.toNat ≠ 9) && unmarked text

def keySafe (text : List Char) : Bool := plainSafe text && text.length ≤ 1024

def Scalar.Safe : Scalar → Prop
  | .plain text => plainSafe text = true
  | .quoted text => quotedSafe text = true

inductive Line where
  | item (indent : Nat) (value : Scalar)
  | field (indent : Nat) (key : List Char) (value : Scalar)
  | emptySequence (indent : Nat) (key : List Char)
  | emptyMapping (indent : Nat) (key : List Char)
  | opens (indent : Nat) (key : List Char)

def Scalar.print : Scalar → List Char
  | .plain text => text
  | .quoted text => '"' :: (text ++ ['"'])

def pad (indent : Nat) : List Char := List.replicate indent ' '

def Line.print : Line → List Char
  | item indent value => pad indent ++ '-' :: ' ' :: value.print
  | field indent key value => pad indent ++ (key ++ ':' :: ' ' :: value.print)
  | emptySequence indent key => pad indent ++ (key ++ [':', ' ', '[', ']'])
  | emptyMapping indent key => pad indent ++ (key ++ [':', ' ', '{', '}'])
  | opens indent key => pad indent ++ (key ++ [':'])

def Line.indent : Line → Nat
  | item indent _ => indent
  | field indent _ _ => indent
  | emptySequence indent _ => indent
  | emptyMapping indent _ => indent
  | opens indent _ => indent

def Line.TextsSafe : Line → Prop
  | item _ value => value.Safe
  | field _ key value => keySafe key = true ∧ value.Safe
  | emptySequence _ key => keySafe key = true
  | emptyMapping _ key => keySafe key = true
  | opens _ key => keySafe key = true

def Line.Safe (line : Line) : Prop :=
  line.TextsSafe ∧ line.indent ≤ 64 ∧ (line.indent = 0 → line.print.head? ≠ some '.')

variable {line : Line} {text key : List Char} {value : Scalar} {indent fuel : Nat}
    {rest : List Line}

theorem Line.safe_of_indent (indent : Nat) (safe : line.TextsSafe) (column : line.indent = indent)
    (inside : 0 < indent) (shallow : indent ≤ 64) : line.Safe :=
  ⟨safe, column.trans_le shallow, fun margin => absurd (column.symm.trans margin) inside.ne'⟩

mutual

def Node.lines (indent : Nat) (key : List Char) : Node → List Line
  | .scalar value => [.field indent key value]
  | .sequence [] => [.emptySequence indent key]
  | .sequence (item :: items) =>
    .opens indent key :: (item :: items).map (Line.item (indent + 2))
  | .mapping [] => [.emptyMapping indent key]
  | .mapping (field :: fields) => .opens indent key :: Block.lines (indent + 2) (field :: fields)

def Block.lines (indent : Nat) : Block → List Line
  | [] => []
  | (key, node) :: rest => node.lines indent key ++ Block.lines indent rest

end

theorem Block.lines_eq_flatMap (indent : Nat) (block : Block) :
    Block.lines indent block = block.flatMap fun field => field.2.lines indent field.1 := by
  induction block with
  | nil => rw [Block.lines, List.flatMap_nil]
  | cons field rest ih =>
    rw [Block.lines, ih, List.flatMap_cons]

def printLines (lines : List Line) : List Char :=
  lines.flatMap fun line => line.print ++ ['\n']

def render (block : Block) : List Char := printLines (Block.lines 0 block)

abbrev Reader := List Char → Option Block

def LawfulReader (read : Reader) : Prop :=
  ∀ block : Block, block ≠ [] → (∀ line ∈ Block.lines 0 block, line.Safe) →
    read (render block) = some block ∧ read (render block).dropLast = some block

def splitLines (current : List Char) : List Char → List (List Char)
  | [] => if current = [] then [] else [current]
  | char :: rest =>
    if char = '\n' then current :: splitLines [] rest else splitLines (current ++ [char]) rest

def splitKey : List Char → Option (List Char × Option (List Char))
  | [] => none
  | [':'] => some ([], none)
  | ':' :: ' ' :: rest => some ([], some rest)
  | char :: rest => (splitKey rest).map fun split => (char :: split.1, split.2)

def readScalar : List Char → Option Scalar
  | '"' :: rest =>
    if rest.dropWhile (· ≠ '"') = ['"'] then some (.quoted (rest.takeWhile (· ≠ '"'))) else none
  | text => some (.plain text)

def readValue (indent : Nat) (key value : List Char) : Option Line :=
  if value = ['[', ']'] then some (.emptySequence indent key)
  else if value = ['{', '}'] then some (.emptyMapping indent key)
  else (readScalar value).map (.field indent key)

def readKeyed (indent : Nat) (content : List Char) : Option Line :=
  match splitKey content with
  | none => none
  | some (key, none) => some (.opens indent key)
  | some (key, some value) => readValue indent key value

def readLine (line : List Char) : Option Line :=
  let indent := (line.takeWhile (· = ' ')).length
  match line.dropWhile (· = ' ') with
  | '-' :: ' ' :: rest => (readScalar rest).map (.item indent)
  | content => readKeyed indent content

def takeItems (indent : Nat) : List Line → List Scalar × List Line
  | .item column value :: rest =>
    if column = indent then
      let taken := takeItems indent rest
      (value :: taken.1, taken.2)
    else ([], .item column value :: rest)
  | lines => ([], lines)

/-- The fields at one indentation, and what follows them. `fuel` bounds the
number of lines. -/
def readFields : Nat → Nat → List Line → Option (Block × List Line)
  | 0, _, [] => some ([], [])
  | 0, _, _ => none
  | fuel + 1, indent, lines =>
    let followedBy (key : List Char) (node : Node) (rest : List Line) :
        Option (Block × List Line) :=
      (readFields fuel indent rest).map fun more => ((key, node) :: more.1, more.2)
    match lines with
    | .field column key value :: rest =>
      if column = indent then followedBy key (.scalar value) rest else some ([], lines)
    | .emptySequence column key :: rest =>
      if column = indent then followedBy key (.sequence []) rest else some ([], lines)
    | .emptyMapping column key :: rest =>
      if column = indent then followedBy key (.mapping []) rest else some ([], lines)
    | .opens column key :: rest =>
      if column = indent then
        match takeItems (indent + 2) rest with
        -- an empty sequence has a line of its own, so this is a mapping
        | ([], _) =>
          (readFields fuel (indent + 2) rest).bind fun inner =>
            followedBy key (.mapping inner.1) inner.2
        | (items, after) => followedBy key (.sequence items) after
      else some ([], lines)
    | _ => some ([], lines)

def readBlock : Reader := fun text =>
  ((splitLines [] text).mapM readLine).bind fun lines =>
    match readFields lines.length 0 lines with
    | some (block, []) => some block
    | _ => none

theorem plainSafe_cons (safe : plainSafe text = true) :
    ∃ first rest, text = first :: rest ∧ isIndicator first = false ∧ first ≠ ' ' := by
  simp only [plainSafe, Bool.and_eq_true] at safe
  obtain ⟨⟨head, -⟩, -⟩ := safe
  cases text with
  | nil => cases head
  | cons first rest => exact ⟨first, rest, rfl, by simpa using head⟩

theorem plainSafe_unmarked (safe : plainSafe text = true) : unmarked text = true := by
  simp only [plainSafe, Bool.and_eq_true] at safe
  exact safe.2

theorem ne_of_not_isIndicator {char other : Char} (notIndicator : isIndicator char = false)
    (indicator : isIndicator other = true) : char ≠ other := by
  rintro rfl
  rw [notIndicator] at indicator
  cases indicator

theorem splitKey_append (clear : unmarked key = true) (value : List Char) :
    splitKey (key ++ ':' :: ' ' :: value) = some (key, some value) ∧
      splitKey (key ++ [':']) = some (key, none) := by
  induction key with
  | nil => exact ⟨rfl, rfl⟩
  | cons char rest ih =>
    cases rest with
    | nil =>
      simp only [unmarked, Bool.and_eq_true, decide_eq_true_eq] at clear
      have notColon := clear.1
      constructor <;> simp [splitKey, notColon]
    | cons next rest =>
      simp only [unmarked, Bool.and_eq_true] at clear
      obtain ⟨first, second⟩ := ih clear.2
      have notMark : ¬ (char = ':' ∧ next = ' ') := by
        rintro ⟨rfl, rfl⟩
        simp at clear
      have step : ∀ tail, splitKey (char :: next :: tail) =
          (splitKey (next :: tail)).map fun split => (char :: split.1, split.2) := by
        intro tail
        rw [splitKey.eq_def]
        split
        · cases ‹_ = _›
        · cases ‹_ = _›
        · rename_i same
          simp only [List.cons.injEq] at same
          exact absurd ⟨same.1, same.2.1⟩ notMark
        · rename_i same
          simp only [List.cons.injEq] at same
          rw [← same.1, ← same.2]
      rw [List.cons_append] at first second
      rw [List.cons_append, List.cons_append, step, first, List.cons_append, List.cons_append,
        step, second]
      exact ⟨rfl, rfl⟩

theorem readScalar_print (safe : value.Safe) : readScalar value.print = some value := by
  cases value with
  | plain text =>
    obtain ⟨first, rest, rfl, notIndicator, -⟩ := plainSafe_cons safe
    have notQuote : first ≠ '"' := ne_of_not_isIndicator notIndicator (by decide)
    unfold Scalar.print readScalar
    split
    · rename_i same
      exact absurd (List.cons.inj same).1 notQuote
    · rfl
  | quoted text =>
    have noQuote : ∀ char ∈ text, (decide (char ≠ '"')) = true := by
      intro char member
      have kept := List.all_eq_true.mp safe char member
      simp only [Bool.and_eq_true] at kept
      exact kept.1.2
    change (if (text ++ ['"']).dropWhile (fun char => decide (char ≠ '"')) = ['"'] then
      some (Scalar.quoted ((text ++ ['"']).takeWhile fun char => decide (char ≠ '"')))
      else none) = _
    rw [List.dropWhile_append_of_pos noQuote, List.takeWhile_append_of_pos noQuote]
    simp

theorem takeWhile_pad (indent : Nat) {content : List Char} (visible : content.head? ≠ some ' ') :
    (pad indent ++ content).takeWhile (· = ' ') = pad indent ∧
      (pad indent ++ content).dropWhile (· = ' ') = content := by
  have spaces : ∀ char ∈ pad indent, decide (char = ' ') = true := by
    intro char member
    exact decide_eq_true (List.eq_of_mem_replicate member)
  rw [List.takeWhile_append_of_pos spaces, List.dropWhile_append_of_pos spaces]
  cases content with
  | nil => simp
  | cons first rest =>
    have notSpace : first ≠ ' ' := by simpa using visible
    simp [notSpace]

theorem readLine_key (indent : Nat) (safe : keySafe key = true) (tail : List Char) :
    readLine (pad indent ++ (key ++ tail)) = readKeyed indent (key ++ tail) := by
  simp only [keySafe, Bool.and_eq_true] at safe
  obtain ⟨first, rest, rfl, notIndicator, notSpace⟩ := plainSafe_cons safe.1
  have notDash : first ≠ '-' := ne_of_not_isIndicator notIndicator (by decide)
  obtain ⟨taken, dropped⟩ := @takeWhile_pad indent (first :: rest ++ tail) (by simpa using notSpace)
  simp only [readLine, taken, dropped]
  split
  · rename_i same
    exact absurd (List.cons.inj same).1 notDash
  · simp [pad]

theorem readLine_print (safe : line.TextsSafe) : readLine line.print = some line := by
  have clear : ∀ {key : List Char}, keySafe key = true → unmarked key = true := by
    intro key keySafe
    rw [Yaml.keySafe, Bool.and_eq_true] at keySafe
    exact plainSafe_unmarked keySafe.1
  cases line with
  | item indent value =>
    obtain ⟨taken, dropped⟩ :=
      @takeWhile_pad indent ('-' :: ' ' :: value.print) (by simp)
    simp only [Line.print, readLine, taken, dropped, readScalar_print safe]
    simp [pad]
  | field indent key value =>
    have notEmpty : value.print ≠ ['[', ']'] ∧ value.print ≠ ['{', '}'] := by
      cases value with
      | plain text =>
        obtain ⟨first, rest, rfl, notIndicator, -⟩ := plainSafe_cons safe.2
        have notOpen := @ne_of_not_isIndicator first '[' notIndicator (by decide)
        have notBrace := @ne_of_not_isIndicator first '{' notIndicator (by decide)
        simp [Scalar.print, notOpen, notBrace]
      | quoted text => simp [Scalar.print]
    rw [Line.print, readLine_key indent safe.1, readKeyed, (splitKey_append (clear safe.1) _).1]
    simp only [readValue, notEmpty.1, notEmpty.2, ↓reduceIte, readScalar_print safe.2,
      Option.map_some]
  | emptySequence indent key =>
    rw [Line.print, readLine_key indent safe, readKeyed, (splitKey_append (clear safe) _).1]
    rfl
  | emptyMapping indent key =>
    rw [Line.print, readLine_key indent safe, readKeyed, (splitKey_append (clear safe) _).1]
    rfl
  | opens indent key =>
    rw [Line.print, readLine_key indent safe, readKeyed, (splitKey_append (clear safe) []).2]

def Line.isItem : Line → Bool
  | item _ _ => true
  | _ => false

def Outside (indent : Nat) (rest : List Line) : Prop :=
  ∀ line ∈ rest.head?, line.isItem = false ∧ line.indent < indent

theorem lines_cons (indent : Nat) (key : List Char) (node : Node) :
    ∃ line more, node.lines indent key = line :: more ∧ line.isItem = false ∧
      line.indent = indent := by
  match node with
  | .scalar _ => exact ⟨_, _, by rw [Node.lines], rfl, rfl⟩
  | .sequence [] => exact ⟨_, _, by rw [Node.lines], rfl, rfl⟩
  | .sequence (_ :: _) => exact ⟨_, _, by rw [Node.lines], rfl, rfl⟩
  | .mapping [] => exact ⟨_, _, by rw [Node.lines], rfl, rfl⟩
  | .mapping (_ :: _) => exact ⟨_, _, by rw [Node.lines], rfl, rfl⟩

theorem head_lines (outside : Outside indent rest) (block : Block) :
    ∀ line ∈ (Block.lines indent block ++ rest).head?, line.isItem = false ∧
      line.indent ≤ indent := by
  match block with
  | [] =>
    rw [Block.lines]
    exact fun line first => ⟨(outside line first).1, (outside line first).2.le⟩
  | (key, node) :: more =>
    obtain ⟨line, others, lines, notItem, column⟩ := lines_cons indent key node
    rw [Block.lines, lines]
    intro first isFirst
    obtain rfl : line = first := by simpa using isFirst
    exact ⟨notItem, column.le⟩

theorem Outside.lines (outside : Outside indent rest) (block : Block) :
    Outside (indent + 2) (Block.lines indent block ++ rest) := by
  intro line first
  obtain ⟨notItem, column⟩ := head_lines outside block line first
  exact ⟨notItem, by omega⟩

theorem takeItems_none {lines : List Line} (notItem : ∀ line ∈ lines.head?, line.isItem = false) :
    takeItems indent lines = ([], lines) := by
  cases lines with
  | nil => rfl
  | cons line rest =>
    cases line with
    | item column value => cases notItem _ rfl
    | _ => rfl

theorem takeItems_map (notItem : ∀ line ∈ rest.head?, line.isItem = false) (items : List Scalar) :
    takeItems indent (items.map (Line.item indent) ++ rest) = (items, rest) := by
  induction items with
  | nil => exact takeItems_none notItem
  | cons item items ih => simp [takeItems, ih]

theorem readFields_outside (outside : Outside indent rest) (enough : rest.length ≤ fuel) :
    readFields fuel indent rest = some ([], rest) := by
  cases rest with
  | nil => cases fuel <;> rfl
  | cons line rest =>
    obtain ⟨fuel, rfl⟩ : ∃ less, fuel = less + 1 := ⟨fuel - 1, by simp at enough; omega⟩
    obtain ⟨notItem, further⟩ := outside line rfl
    have notHere := further.ne
    cases line <;> simp_all [readFields, Line.isItem, Line.indent]

theorem readFields_lines {block : Block} (outside : Outside indent rest)
    (enough : (Block.lines indent block ++ rest).length ≤ fuel) :
    readFields fuel indent (Block.lines indent block ++ rest) = some (block, rest) := by
  -- on the fuel, not on the tree: a nested mapping is read with what follows it as its rest
  induction fuel generalizing indent block rest with
  | zero =>
    match block with
    | [] =>
      rw [Block.lines] at enough ⊢
      exact readFields_outside outside enough
    | (key, node) :: more =>
      obtain ⟨line, others, lines, -⟩ := lines_cons indent key node
      rw [Block.lines, lines] at enough
      simp at enough
  | succ fuel ih =>
    match block with
    | [] =>
      rw [Block.lines] at enough ⊢
      exact readFields_outside outside enough
    | (key, .scalar value) :: more =>
      rw [Block.lines, Node.lines] at enough ⊢
      have tail := @ih indent rest more outside (by simpa using enough)
      simp [readFields, tail]
    | (key, .sequence []) :: more =>
      rw [Block.lines, Node.lines] at enough ⊢
      have tail := @ih indent rest more outside (by simpa using enough)
      simp [readFields, tail]
    | (key, .mapping []) :: more =>
      rw [Block.lines, Node.lines] at enough ⊢
      have tail := @ih indent rest more outside (by simpa using enough)
      simp [readFields, tail]
    | (key, .sequence (item :: items)) :: more =>
      rw [Block.lines, Node.lines] at enough ⊢
      have tail := @ih indent rest more outside
        (by simp at enough ⊢; omega)
      have items := @takeItems_map (indent + 2) (Block.lines indent more ++ rest)
        (fun line first => (outside.lines more line first).1) (item :: items)
      rw [List.append_assoc, List.cons_append, readFields]
      simp only [↓reduceIte, items, tail]
      rfl
    | (key, .mapping (field :: fields)) :: more =>
      rw [Block.lines, Node.lines] at enough ⊢
      have tail := @ih indent rest more outside
        (by simp at enough ⊢; omega)
      have inner := @ih (indent + 2) (Block.lines indent more ++ rest) (field :: fields)
        (outside.lines more)
        (by simp at enough ⊢; omega)
      have noItems := @takeItems_none (indent + 2)
        (Block.lines (indent + 2) (field :: fields) ++ (Block.lines indent more ++ rest))
        (fun line first => (head_lines (outside.lines more) (field :: fields) line first).1)
      rw [List.append_assoc, List.cons_append, readFields]
      simp only [↓reduceIte, noItems, inner, Option.bind_some, tail]
      rfl

theorem not_mem_of_printable (printable : ∀ char ∈ text, isPrintable char = true) :
    '\n' ∉ text := by
  intro member
  have := printable _ member
  revert this
  decide

theorem plainSafe_lineFeed (safe : plainSafe text = true) : '\n' ∉ text := by
  apply not_mem_of_printable
  simp only [plainSafe, Bool.and_eq_true, List.all_eq_true] at safe
  exact fun char member => (safe.1.2 char member).1

theorem keySafe_lineFeed (safe : keySafe text = true) : '\n' ∉ text := by
  rw [keySafe, Bool.and_eq_true] at safe
  exact plainSafe_lineFeed safe.1

theorem Scalar.print_lineFeed (safe : value.Safe) : '\n' ∉ value.print := by
  cases value with
  | plain text => exact plainSafe_lineFeed safe
  | quoted text =>
    have inside : '\n' ∉ text := by
      apply not_mem_of_printable
      simp only [Scalar.Safe, quotedSafe, Bool.and_eq_true, List.all_eq_true] at safe
      exact fun char member => (safe char member).1.1
    simp [Scalar.print, inside]

theorem Line.print_lineFeed (safe : line.TextsSafe) : '\n' ∉ line.print := by
  cases line with
  | item indent value =>
    simp [Line.print, pad, Scalar.print_lineFeed safe]
  | field indent key value =>
    simp [Line.print, pad, keySafe_lineFeed safe.1, Scalar.print_lineFeed safe.2]
  | emptySequence indent key => simp [Line.print, pad, keySafe_lineFeed safe]
  | emptyMapping indent key => simp [Line.print, pad, keySafe_lineFeed safe]
  | opens indent key => simp [Line.print, pad, keySafe_lineFeed safe]

theorem Line.print_ne_nil (line : Line) : line.print ≠ [] := by
  cases line <;> simp [Line.print]

theorem splitLines_append (noBreak : '\n' ∉ text) (current rest : List Char) :
    splitLines current (text ++ rest) = splitLines (current ++ text) rest := by
  induction text generalizing current with
  | nil => simp
  | cons char text ih =>
    simp only [List.mem_cons, not_or] at noBreak
    rw [List.cons_append, splitLines, if_neg (Ne.symm noBreak.1),
      ih noBreak.2, List.append_assoc]
    rfl

theorem splitLines_flatMap {texts : List (List Char)} (noBreak : ∀ text ∈ texts, '\n' ∉ text)
    (rest : List Char) : splitLines [] ((texts.flatMap fun text => text ++ ['\n']) ++ rest) =
      texts ++ splitLines [] rest := by
  induction texts with
  | nil => rfl
  | cons text texts ih =>
    have here := noBreak text List.mem_cons_self
    have later := ih fun other member =>
      noBreak other (List.mem_cons_of_mem text member)
    rw [List.flatMap_cons, List.append_assoc, List.append_assoc, splitLines_append here,
      List.singleton_append, splitLines, if_pos rfl, later]
    rfl

theorem splitLines_printLines {lines : List Line} (safe : ∀ line ∈ lines, line.TextsSafe) :
    splitLines [] (printLines lines) = lines.map Line.print ∧
      splitLines [] (printLines lines).dropLast = lines.map Line.print := by
  have noBreak : ∀ text ∈ lines.map Line.print, '\n' ∉ text := by
    intro text member
    obtain ⟨line, isLine, rfl⟩ := List.mem_map.mp member
    exact Line.print_lineFeed (safe line isLine)
  constructor
  · have split := splitLines_flatMap noBreak []
    simpa [printLines, List.flatMap_map, splitLines] using split
  · rcases List.eq_nil_or_concat lines with rfl | ⟨before, last, rfl⟩
    · rfl
    · have split := @splitLines_flatMap (before.map Line.print)
        (fun text member => noBreak text (by simp_all)) last.print
      have lastLine : splitLines [] last.print = [last.print] := by
        have whole := @splitLines_append last.print
          (noBreak _ (by simp)) [] []
        simpa [splitLines, last.print_ne_nil] using whole
      have dropped : (printLines (before.concat last)).dropLast =
          (before.flatMap fun line => line.print ++ ['\n']) ++ last.print := by
        simp [printLines, ← List.append_assoc]
      rw [lastLine, List.flatMap_map] at split
      rw [dropped, split]
      simp

theorem mapM_readLine {lines : List Line} (safe : ∀ line ∈ lines, line.TextsSafe) :
    (lines.map Line.print).mapM readLine = some lines := by
  induction lines with
  | nil => rfl
  | cons line lines ih =>
    have here := readLine_print (safe line List.mem_cons_self)
    have later := ih fun other member =>
      safe other (List.mem_cons_of_mem line member)
    simp [here, later]

theorem readBlock_lawful : LawfulReader readBlock := by
  intro block _ safe
  have textsSafe : ∀ line ∈ Block.lines 0 block, line.TextsSafe :=
    fun line member => (safe line member).1
  have fields : readFields (Block.lines 0 block).length 0 (Block.lines 0 block) =
      some (block, []) := by
    have read := @readFields_lines 0 (Block.lines 0 block).length [] block
      (fun line first => by cases first) (by simp)
    simpa using read
  have split := splitLines_printLines textsSafe
  constructor
  · simp [readBlock, render, split.1, mapM_readLine textsSafe, fields]
  · simp [readBlock, render, split.2, mapM_readLine textsSafe, fields]

end QuantaWatch.Lib.Yaml
