import QuantaWatch.Lib.Escaped

/-!
Lines in the Common Event Format.
-/

namespace QuantaWatch.Lib.Cef

open Lib.Escaped

structure Event where
  header : List String
  extensions : List (String × String)

def readPairs (key : List Char) : List (List Char) → Option (List (String × String))
  | [] => none
  | [value] => some [(String.ofList key, String.ofList (unescape value))]
  | piece :: next :: rest => do
    let (value, nextKey) ← cutLast ' ' piece
    let pairs ← readPairs nextKey (next :: rest)
    some ((String.ofList key, String.ofList (unescape value)) :: pairs)

def readExtensions (text : List Char) : Option (List (String × String)) :=
  match split '=' text with
  | [] => none
  | [only] => if only = [] then some [] else none
  | key :: values => readPairs key values

def read (line : List Char) : Option Event :=
  let pieces := split '|' line
  if 7 < pieces.length then
    (readExtensions (['|'].intercalate (pieces.drop 7))).map fun extensions =>
      ⟨(pieces.take 7).map fun piece => String.ofList (unescape piece), extensions⟩
  else none

def headerText (field : String) : List Char := escape ['\\', '|'] field.toList

def valueText (value : String) : List Char := escape ['\\', '='] value.toList

def pairText (pair : String × String) : List Char := pair.1.toList ++ '=' :: valueText pair.2

def write (event : Event) : List Char :=
  event.header.flatMap (fun field => headerText field ++ ['|']) ++
    [' '].intercalate (event.extensions.map pairText)

def PlainKey (key : String) : Prop := ' ' ∉ key.toList ∧ '=' ∉ key.toList ∧ '\\' ∉ key.toList

instance (key : String) : Decidable (PlainKey key) := inferInstanceAs (Decidable (_ ∧ _ ∧ _))

theorem closed_valueText (value : String) : Closed '=' (valueText value) :=
  closed_escape (by simp) (by simp) value.toList

theorem unescape_valueText (value : String) : unescape (valueText value) = value.toList :=
  unescape_escape (by simp) value.toList

theorem unescape_headerText (field : String) : unescape (headerText field) = field.toList :=
  unescape_escape (by simp) field.toList

theorem readPairs_split (pairs : List (String × String))
    (plain : ∀ pair ∈ pairs, PlainKey pair.1) (key value : String) : readPairs key.toList
        (split '=' (valueText value ++ pairs.flatMap fun pair => ' ' :: pairText pair)) =
      some ((key, value) :: pairs) := by
  induction pairs generalizing key value with
  | nil =>
    rw [List.flatMap_nil, List.append_nil, split_closed (closed_valueText value), readPairs,
      unescape_valueText, String.ofList_toList, String.ofList_toList]
  | cons next pairs ih =>
    obtain ⟨nextKey, nextValue⟩ := next
    obtain ⟨noSpace, noEqual, noEscape⟩ := plain (nextKey, nextValue) List.mem_cons_self
    have closed : Closed '=' (valueText value ++ ' ' :: nextKey.toList) :=
      (closed_valueText value).append
        (.plain (by decide) (by decide) (closed_of_notMem noEscape noEqual))
    have rest := ih (fun pair member => plain pair
      (List.mem_cons_of_mem _ member)) nextKey nextValue
    have text : valueText value ++ ((nextKey, nextValue) :: pairs).flatMap
          (fun pair => ' ' :: pairText pair) =
        (valueText value ++ ' ' :: nextKey.toList) ++ '=' ::
          (valueText nextValue ++ pairs.flatMap fun pair => ' ' :: pairText pair) := by
      simp [pairText]
    rw [text, split_append closed (by decide)]
    generalize split '=' _ = pieces at rest
    cases pieces with
    | nil => cases rest
    | cons piece pieces =>
      rw [readPairs, cutLast_append noSpace, Option.bind_eq_bind, Option.bind_some]
      show (readPairs nextKey.toList (piece :: pieces)).bind _ = _
      rw [rest, Option.bind_some, unescape_valueText, String.ofList_toList,
        String.ofList_toList]

theorem readExtensions_intercalate {pairs : List (String × String)}
    (plain : ∀ pair ∈ pairs, PlainKey pair.1) :
    readExtensions ([' '].intercalate (pairs.map pairText)) = some pairs := by
  cases pairs with
  | nil => rfl
  | cons first pairs =>
    obtain ⟨_, noEqual, noEscape⟩ := plain first List.mem_cons_self
    have rest := readPairs_split pairs (fun pair member => plain pair
      (List.mem_cons_of_mem _ member)) first.1 first.2
    rw [readExtensions, List.map_cons, intercalate_cons, List.flatMap_map, pairText,
      List.append_assoc, List.cons_append,
      split_append (closed_of_notMem noEscape noEqual) (by decide)]
    generalize split '=' _ = pieces at rest
    cases pieces with
    | nil => cases rest
    | cons piece pieces => exact rest

theorem split_header (header : List String) (rest : List Char) :
    split '|' (header.flatMap (fun field => headerText field ++ ['|']) ++ rest) =
      header.map headerText ++ split '|' rest := by
  induction header with
  | nil => rfl
  | cons field header ih =>
    have closed : Closed '|' (headerText field) :=
      closed_escape (by simp) (by simp) field.toList
    rw [List.flatMap_cons, List.append_assoc, List.append_assoc, List.singleton_append,
      split_append closed (by decide), ih]
    rfl

theorem read_write {event : Event} (seven : event.header.length = 7)
    (plain : ∀ pair ∈ event.extensions, PlainKey pair.1) : read (write event) = some event := by
  have fields : (event.header.map headerText).length = 7 := by rw [List.length_map, seven]
  have longer : 7 < (event.header.map headerText ++
      split '|' ([' '].intercalate (event.extensions.map pairText))).length := by
    have pieces := List.length_pos_of_ne_nil
      (@split_ne_nil '|' ([' '].intercalate (event.extensions.map pairText)))
    rw [List.length_append]
    omega
  simp only [read, write, split_header]
  rw [if_pos longer, List.drop_left' fields, List.take_left' fields, intercalate_split,
    readExtensions_intercalate plain, List.map_map]
  have header : event.header.map ((fun piece => String.ofList (unescape piece)) ∘ headerText) =
      event.header := by
    refine (List.map_congr_left fun field _ => ?_).trans (List.map_id _)
    show String.ofList (unescape (headerText field)) = field
    rw [unescape_headerText, String.ofList_toList]
  rw [header]
  rfl

theorem notMem_write {event : Event} {char : Char} (other : char ∉ ['|', ' ', '=', '\\'])
    (header : ∀ field ∈ event.header, char ∉ field.toList)
    (extensions : ∀ pair ∈ event.extensions, char ∉ pair.1.toList ∧ char ∉ pair.2.toList) :
    char ∉ write event := by
  have notEscape : char ≠ '\\' := by
    rintro rfl
    exact other (by simp)
  have inPair {pair : String × String} (isPair : pair ∈ event.extensions) :
      char ∉ pairText pair := by
    intro member
    obtain inKey | isEqual | inValue : char ∈ pair.1.toList ∨ char = '=' ∨
        char ∈ valueText pair.2 := by simpa [pairText] using member
    · exact (extensions pair isPair).1 inKey
    · exact other (by simp [isEqual])
    · exact (extensions pair isPair).2 (mem_of_mem_escape notEscape inValue)
  intro member
  obtain inHeader | inExtensions := List.mem_append.mp member
  · obtain ⟨field, isField, inField⟩ := List.mem_flatMap.mp inHeader
    obtain inText | isPipe := List.mem_append.mp inField
    · exact header field isField (mem_of_mem_escape notEscape inText)
    · exact other (by simp [List.mem_singleton.mp isPipe])
  · cases same : event.extensions with
    | nil => simp [same] at inExtensions
    | cons first pairs =>
      rw [same] at inPair
      rw [same, List.map_cons, intercalate_cons, List.flatMap_map] at inExtensions
      obtain inFirst | later := List.mem_append.mp inExtensions
      · exact inPair List.mem_cons_self inFirst
      · obtain ⟨pair, isPair, inText⟩ := List.mem_flatMap.mp later
        obtain isSpace | inText := List.mem_cons.mp inText
        · exact other (by simp [isSpace])
        · exact inPair (List.mem_cons_of_mem first isPair) inText

end QuantaWatch.Lib.Cef
