import ElmPrerender.Json.Printer
import ElmPrerender.Proofs.Json.Lists

/-!
# Indented values are read back

A value whose numbers are exact, whose names are distinct and which is not nested too deeply is read
back from its indented text, at any level of indentation.
-/

namespace ElmPrerender.Json

/-- Values with at most so many lists and objects around any part of them, with distinct names in
each object and no numbers but those that fit. -/
def Value.Within (Fit : Number → Prop) : Nat → Value → Prop
  | _, .null | _, .bool _ | _, .string _ => True
  | _, .number n => Fit n
  | 0, .array _ | 0, .object _ => False
  | depth + 1, .array items => ∀ v ∈ items, Within Fit depth v
  | depth + 1, .object members =>
    (members.map (·.1)).Nodup ∧ ∀ m ∈ members, Within Fit depth m.2

/-- Values that a text can hold and a reader of the given depth can meet. -/
abbrev Value.Readable (depth : Nat) (v : Value) : Prop := v.Within Number.Exact depth

theorem Members.insert_eq_append {members : Members} {name : String}
    (fresh : name ∉ members.map (·.1)) (v : Value) :
    members.insert name v = members ++ [(name, v)] := by
  induction members with
  | nil => rfl
  | cons m rest ih =>
    simp only [List.map_cons, List.mem_cons, not_or] at fresh
    rw [Members.insert, if_neg (Ne.symm fresh.1), ih fresh.2, List.cons_append]

theorem Members.foldl_insert {written : Members} (members : Members)
    (distinct : ((members ++ written).map (·.1)).Nodup) :
    written.foldl (fun members m => members.insert m.1 m.2) members = members ++ written := by
  induction written generalizing members with
  | nil => simp
  | cons m rest ih =>
    have hfresh : m.1 ∉ members.map (·.1) := by
      rw [List.map_append, List.nodup_append] at distinct
      intro hm
      exact distinct.2.2 m.1 hm m.1 (by simp) rfl
    rw [List.foldl_cons, Members.insert_eq_append hfresh, ih]
    · simp
    · simpa using distinct

/-- Members that are all different stay as they are. -/
theorem Members.ofList_eq_self {written : Members} (distinct : (written.map (·.1)).Nodup) :
    Members.ofList written = written := by
  have h := Members.foldl_insert [] distinct
  rwa [List.nil_append] at h

namespace Reader

open Text.Utf8

section Simple

variable {nested : Option (Reader Value)} {blanks rest : Bytes}

theorem reads_keyword (word : List Char) (rest : Bytes) :
    Reads (keyword word) (word.map byte ++ rest) () rest := by
  induction word with
  | nil => rfl
  | cons c word ih =>
    simp only [Reads, List.map_cons, List.cons_append, keyword, if_true]
    exact ih

theorem encode_null (rest : Bytes) :
    encode "null".toList ++ rest = byte 'n' :: (['u', 'l', 'l'].map byte ++ rest) := rfl

theorem encode_true (rest : Bytes) :
    encode (boolText true) ++ rest = byte 't' :: (['r', 'u', 'e'].map byte ++ rest) := rfl

theorem encode_false (rest : Bytes) :
    encode (boolText false) ++ rest = byte 'f' :: (['a', 'l', 's', 'e'].map byte ++ rest) := rfl

theorem reads_null (h : Blank blanks) :
    Reads (valueOver nested) (blanks ++ (encode "null".toList ++ rest)) .null rest := by
  rw [encode_null]
  refine (reads_peek? h (by decide) _).bind ?_
  simp only [if_true]
  exact (reads_skipByte _ _).bind ((reads_keyword ['u', 'l', 'l'] rest).bind (reads_pure _ _))

theorem reads_bool (h : Blank blanks) (b : Bool) :
    Reads (valueOver nested) (blanks ++ (encode (boolText b) ++ rest)) (.bool b) rest := by
  have htn : byte 't' ≠ byte 'n' := by decide
  have hfn : byte 'f' ≠ byte 'n' := by decide
  have hft : byte 'f' ≠ byte 't' := by decide
  cases b with
  | true =>
    rw [encode_true]
    refine (reads_peek? h (by decide) _).bind ?_
    simp only [if_neg htn, if_true]
    exact (reads_skipByte _ _).bind ((reads_keyword ['r', 'u', 'e'] rest).bind (reads_pure _ _))
  | false =>
    rw [encode_false]
    refine (reads_peek? h (by decide) _).bind ?_
    simp only [if_neg hfn, if_neg hft, if_true]
    exact (reads_skipByte _ _).bind
      ((reads_keyword ['a', 'l', 's', 'e'] rest).bind (reads_pure _ _))

/-- A sign or a digit begins no word and is no blank. -/
theorem numberStart {b : UInt8} (h : b = byte '-' ∨ isDigit b = true) :
    isBlank b = false ∧ b ≠ byte ']' ∧ b ≠ byte 'n' ∧ b ≠ byte 't' ∧ b ≠ byte 'f' := by
  rcases h with rfl | digit
  · decide
  · refine ⟨?_, ?_, ?_, ?_, ?_⟩
    · cases hblank : isBlank b with
      | false => rfl
      | true =>
        simp only [isBlank, Bool.or_eq_true, beq_iff_eq] at hblank
        rcases hblank with ((rfl | rfl) | rfl) | rfl <;> exact absurd digit (by decide)
    all_goals
      rintro rfl
      exact absurd digit (by decide)

theorem Number.text_start {n : Number} (exact : n.Exact) :
    ∃ b r, encode n.text = b :: r ∧ (b = byte '-' ∨ isDigit b = true) := by
  cases n with
  | integer i => exact integerText_start i
  | float x => exact False.elim exact

theorem reads_exact (h : Blank blanks) {n : Number} (exact : n.Exact) (stop : Stops rest) :
    Reads (valueOver nested) (blanks ++ (encode n.text ++ rest)) (.number n) rest := by
  obtain ⟨b, r, htext, hb⟩ := Number.text_start exact
  have hread := reads_signedNumber exact stop
  obtain ⟨hblank, -, hn, ht, hf⟩ := numberStart hb
  have hnumber : (decide (b = byte '-') || isDigit b) = true := by simpa using hb
  rw [htext] at hread ⊢
  refine (reads_peek? h hblank _).bind ?_
  simp only [if_neg hn, if_neg ht, if_neg hf, hnumber, if_true]
  exact hread.map

theorem reads_text (h : Blank blanks) (s : String) :
    Reads (valueOver nested) (blanks ++ (encode (stringText s) ++ rest)) (.string s) rest := by
  have hn : byte '"' ≠ byte 'n' := by decide
  have ht : byte '"' ≠ byte 't' := by decide
  have hf : byte '"' ≠ byte 'f' := by decide
  have hnumber : (decide (byte '"' = byte '-') || isDigit (byte '"')) = false := by decide
  rw [encode_stringText]
  refine (reads_peek? h (by decide) _).bind ?_
  simp only [if_neg hn, if_neg ht, if_neg hf, hnumber, Bool.false_eq_true, if_false, if_true]
  exact (reads_skipByte _ _).bind (reads_stringRest s rest).map

end Simple

section Nested

variable {item : Reader Value} {blanks : Bytes}

theorem reads_array (h : Blank blanks) {text rest : Bytes} {items : List Value}
    (inner : Reads (listRest item) text items rest) :
    Reads (valueOver (some item)) (blanks ++ byte '[' :: text) (.array items) rest := by
  have hn : byte '[' ≠ byte 'n' := by decide
  have ht : byte '[' ≠ byte 't' := by decide
  have hf : byte '[' ≠ byte 'f' := by decide
  have hnumber : (decide (byte '[' = byte '-') || isDigit (byte '[')) = false := by decide
  have hquote : byte '[' ≠ byte '"' := by decide
  refine (reads_peek? h (by decide) _).bind ?_
  simp only [if_neg hn, if_neg ht, if_neg hf, hnumber, if_neg hquote, Bool.false_eq_true, if_false,
    if_true]
  exact (reads_skipByte _ _).bind inner.map

/-- An object whose names may be repeated. -/
theorem reads_object_ofList (h : Blank blanks) {text rest : Bytes}
    {written : List (String × Value)} (inner : Reads (objectRest item) text written rest) :
    Reads (valueOver (some item)) (blanks ++ byte '{' :: text)
      (.object (Members.ofList written)) rest := by
  have hn : byte '{' ≠ byte 'n' := by decide
  have ht : byte '{' ≠ byte 't' := by decide
  have hf : byte '{' ≠ byte 'f' := by decide
  have hnumber : (decide (byte '{' = byte '-') || isDigit (byte '{')) = false := by decide
  have hquote : byte '{' ≠ byte '"' := by decide
  have hlist : byte '{' ≠ byte '[' := by decide
  refine (reads_peek? h (by decide) _).bind ?_
  simp only [if_neg hn, if_neg ht, if_neg hf, hnumber, if_neg hquote, if_neg hlist,
    Bool.false_eq_true, if_false, if_true]
  exact (reads_skipByte _ _).bind inner.map

theorem reads_object (h : Blank blanks) {text rest : Bytes} {members : Members}
    (inner : Reads (objectRest item) text members rest) (distinct : (members.map (·.1)).Nodup) :
    Reads (valueOver (some item)) (blanks ++ byte '{' :: text) (.object members) rest := by
  have hread := reads_object_ofList h inner
  rw [Members.ofList_eq_self distinct] at hread
  exact hread

end Nested

section Texts

open Value (lineBreak)

variable (indent : List Char) (level : Nat)

/-- The text of an item one level further in. -/
def innerText (v : Value) : Bytes := encode (v.pretty indent (level + 1))

def innerGap : Bytes := encode (lineBreak indent (level + 1))

theorem encode_prettyItems (items : List Value) :
    encode (Value.prettyItems indent level items) =
      following (innerGap indent level) (items.map (innerText indent level)) := by
  induction items with
  | nil => rw [Value.prettyItems]; rfl
  | cons v rest ih =>
    rw [Value.prettyItems, encode_ascii (by decide), encode_append, encode_append, ih,
      List.map_cons, ← List.append_nil (following _ (_ :: _)), following_cons, List.append_nil,
      List.append_assoc, innerGap, innerText]

theorem encode_colon (text : List Char) :
    encode (':' :: ' ' :: text) = byte ':' :: byte ' ' :: encode text := by
  rw [encode_ascii (by decide), encode_ascii (by decide)]

theorem encode_prettyMembers (members : Members) :
    encode (Value.prettyMembers indent level members) =
      following (innerGap indent level)
        (members.map (memberText ([byte ' ']) (innerText indent level))) := by
  induction members with
  | nil => rw [Value.prettyMembers]; rfl
  | cons m rest ih =>
    rw [Value.prettyMembers, encode_ascii (by decide), List.map_cons,
      ← List.append_nil (following _ (_ :: _)), following_cons, List.append_nil, ← ih]
    simp only [encode_append, List.append_assoc, memberText, innerGap, innerText,
      encode_colon, List.cons_append, List.nil_append]

/-- The text of a list that has items, from behind its opening bracket. -/
theorem encode_prettyArray (items : List Value) (nonempty : items ≠ []) (rest : Bytes) :
    encode ((Value.array items).pretty indent level) ++ rest =
      byte '[' :: (between (innerGap indent level) (items.map (innerText indent level)) ++
        (encode (lineBreak indent level) ++ byte ']' :: rest)) := by
  cases items with
  | nil => exact absurd rfl nonempty
  | cons v r =>
    rw [Value.pretty, encode_ascii (by decide)]
    simp only [encode_append, encode_prettyItems, List.map_cons, between, List.cons_append,
      List.append_assoc, innerGap, innerText]
    rfl

theorem encode_prettyObject (members : Members) (nonempty : members ≠ []) (rest : Bytes) :
    encode ((Value.object members).pretty indent level) ++ rest =
      byte '{' :: (between (innerGap indent level)
          (members.map (memberText ([byte ' ']) (innerText indent level))) ++
        (encode (lineBreak indent level) ++ byte '}' :: rest)) := by
  cases members with
  | nil => exact absurd rfl nonempty
  | cons m r =>
    rw [Value.pretty, encode_ascii (by decide)]
    simp only [encode_append, encode_prettyMembers, List.map_cons, between, memberText,
      List.cons_append, List.append_assoc, innerGap, innerText, encode_colon, List.nil_append]
    rfl

end Texts

section Whole

open Value (lineBreak)

variable {indent : List Char}

theorem blank_singleton {b : UInt8} (h : isBlank b = true) : Blank [b] := by
  intro c hc
  rw [List.mem_singleton.mp hc]
  exact h

theorem blank_space : Blank [byte ' '] := blank_singleton (by decide)

theorem blank_lineFeed : Blank [byte '\n'] := blank_singleton (by decide)

theorem blank_replicate {unit : List Char} (h : Blank (encode unit)) (level : Nat) :
    Blank (encode (List.replicate level unit).flatten) := by
  induction level with
  | zero => exact Blank.nil
  | succ level ih =>
    rw [List.replicate_succ, List.flatten_cons, encode_append]
    exact h.append ih

theorem blank_lineBreak (h : Blank (encode indent)) (level : Nat) :
    Blank (encode (lineBreak indent level)) := by
  rw [lineBreak, encode_ascii (by decide)]
  exact blank_lineFeed.append (blank_replicate h level)

theorem starts_cons {b : UInt8} (h : isBlank b = false ∧ b ≠ byte ']') (text : Bytes) :
    Starts (b :: text) :=
  ⟨b, text, rfl, h⟩

/-- A value without lists and objects, whatever may be nested in others. -/
theorem written_flat {nested : Option (Reader Value)} {v : Value} (flat : v.Readable 0)
    (indent : List Char) (level : Nat) :
    Written (valueOver nested) (encode (v.pretty indent level)) v := by
  cases v with
  | null =>
    rw [Value.pretty]
    refine ⟨?_, fun h _ => reads_null h⟩
    rw [← List.append_nil (encode _), encode_null]
    exact starts_cons (by decide) _
  | bool b =>
    rw [Value.pretty]
    refine ⟨?_, fun h _ => reads_bool h b⟩
    cases b with
    | true =>
      rw [← List.append_nil (encode _), encode_true]
      exact starts_cons (by decide) _
    | false =>
      rw [← List.append_nil (encode _), encode_false]
      exact starts_cons (by decide) _
  | number n =>
    rw [Value.pretty]
    obtain ⟨b, r, htext, hb⟩ := Number.text_start flat
    refine ⟨?_, fun h stop => reads_exact h flat stop⟩
    rw [htext]
    exact starts_cons ⟨(numberStart hb).1, (numberStart hb).2.1⟩ _
  | string s =>
    rw [Value.pretty]
    refine ⟨?_, fun h _ => reads_text h s⟩
    rw [← List.append_nil (encode _), encode_stringText]
    exact starts_cons (by decide) _
  | array items => exact False.elim flat
  | object members => exact False.elim flat

/-- The text of a list opens a bracket; from there its items are read back. -/
theorem opens_array {item : Reader Value} (h : Blank (encode indent)) {items : List Value}
    (level : Nat) (inner : ∀ v ∈ items, Written item (encode (v.pretty indent (level + 1))) v)
    (rest : Bytes) :
    ∃ text, encode ((Value.array items).pretty indent level) ++ rest = byte '[' :: text ∧
      Reads (listRest item) text items rest := by
  by_cases empty : items = []
  · subst empty
    rw [Value.pretty]
    have hread := reads_listRest Blank.nil Blank.nil inner rest
    exact ⟨_, rfl, hread⟩
  · exact ⟨_, encode_prettyArray indent level items empty rest,
      reads_listRest (blank_lineBreak h _) (blank_lineBreak h _) inner rest⟩

/-- The text of an object opens a brace; from there its members are read back as written. -/
theorem opens_object {item : Reader Value} (h : Blank (encode indent)) {members : Members}
    (level : Nat)
    (inner : ∀ m ∈ members, Written item (encode (m.2.pretty indent (level + 1))) m.2)
    (rest : Bytes) :
    ∃ text, encode ((Value.object members).pretty indent level) ++ rest = byte '{' :: text ∧
      Reads (objectRest item) text members rest := by
  by_cases empty : members = []
  · subst empty
    rw [Value.pretty]
    have hnone : ∀ m ∈ ([] : Members), Written item (innerText indent level m.2) m.2 := inner
    have hread := reads_objectRest Blank.nil Blank.nil Blank.nil hnone rest
    exact ⟨_, rfl, hread⟩
  · exact ⟨_, encode_prettyObject indent level members empty rest,
      reads_objectRest (blank_lineBreak h _) blank_space (blank_lineBreak h _) inner rest⟩

theorem starts_object {item : Reader Value} (h : Blank (encode indent)) {members : Members}
    (level : Nat)
    (inner : ∀ m ∈ members, Written item (encode (m.2.pretty indent (level + 1))) m.2) :
    Starts (encode ((Value.object members).pretty indent level)) := by
  obtain ⟨text, htext, -⟩ := opens_object h level inner []
  rw [← List.append_nil (encode _), htext]
  exact starts_cons (by decide) _

theorem written_array {item : Reader Value} (h : Blank (encode indent)) {items : List Value}
    (level : Nat) (inner : ∀ v ∈ items, Written item (encode (v.pretty indent (level + 1))) v) :
    Written (valueOver (some item)) (encode ((Value.array items).pretty indent level))
      (.array items) := by
  refine ⟨?_, ?_⟩
  · obtain ⟨text, htext, -⟩ := opens_array h level inner []
    rw [← List.append_nil (encode _), htext]
    exact starts_cons (by decide) _
  · intro blanks rest hblanks _
    obtain ⟨text, htext, hread⟩ := opens_array h level inner rest
    rw [htext]
    exact reads_array hblanks hread

theorem written_object {item : Reader Value} (h : Blank (encode indent)) {members : Members}
    (level : Nat) (distinct : (members.map (·.1)).Nodup)
    (inner : ∀ m ∈ members, Written item (encode (m.2.pretty indent (level + 1))) m.2) :
    Written (valueOver (some item)) (encode ((Value.object members).pretty indent level))
      (.object members) := by
  refine ⟨starts_object h level inner, ?_⟩
  intro blanks rest hblanks _
  obtain ⟨text, htext, hread⟩ := opens_object h level inner rest
  rw [htext]
  exact reads_object hblanks hread distinct

/-- Every readable value is read back from its indented text, by induction on the nesting. -/
theorem written_pretty (h : Blank (encode indent)) {depth : Nat} {v : Value}
    (readable : v.Readable depth) (level : Nat) :
    Written (value depth) (encode (v.pretty indent level)) v := by
  induction depth generalizing v level with
  | zero => exact written_flat readable indent level
  | succ depth ih =>
    cases v with
    | array items =>
      exact written_array h level fun v hv => ih (readable v hv) (level + 1)
    | object members =>
      exact written_object h level readable.1 fun m hm => ih (readable.2 m hm) (level + 1)
    | null | bool | string => exact written_flat (by simp only [Value.Within]) indent level
    | number n =>
      exact written_flat (by simpa only [Value.Within] using readable) indent level

end Whole

theorem reads_finish {blanks : Bytes} (h : Blank blanks) : Reads finish blanks () [] := by
  have hnone : peek? blanks = .ok (none, []) := by
    have hall : blanks.dropWhile isBlank = [] := by
      rw [← List.append_nil blanks, List.dropWhile_append_of_pos h]
      rfl
    simp only [peek?, hall, List.head?_nil]
  exact Reads.bind hnone (reads_pure _ _)

/-- A reader that leaves nothing but blanks reads the whole of a text. -/
theorem parse_eq_ok {α : Type} {content : Reader α} {text blanks : Bytes} {a : α}
    (reads : Reads content text a blanks) (h : Blank blanks) :
    Reader.parse content text = .ok a := by
  have hwhole : Reads (content >>= fun a => finish >>= fun _ => pure a) text a [] :=
    reads.bind ((reads_finish h).bind (reads_pure a []))
  rw [Reads] at hwhole
  simp only [Reader.parse, hwhole]

end Reader

open Text.Utf8

theorem blank_indent (indent : Nat) : Reader.Blank (encode (List.replicate indent ' ')) := by
  have hspace : Reader.Blank (encode [' ']) := Reader.blank_space
  simpa using Reader.blank_replicate hspace indent

theorem ofString_prettyText (v : Value) (indent : Nat) :
    ofString (v.prettyText indent) =
      encode (v.pretty (List.replicate indent ' ') 0) ++ [byte '\n'] := by
  rw [ofString, Value.prettyText, String.toList_ofList, encode_append,
    Reader.encode_ascii (by decide)]
  rfl

/-- Parsing inverts indented printing. -/
theorem Value.parse_prettyText {v : Value} (readable : v.Readable Reader.maxDepth) (indent : Nat) :
    Value.parse (v.prettyText indent) = .ok v := by
  have hstop : Reader.Stops [byte '\n'] := rfl
  have hread := (Reader.written_pretty (blank_indent indent) readable 0).reads Reader.Blank.nil
    hstop
  rw [Value.parse, ofString_prettyText]
  exact Reader.parse_eq_ok hread Reader.blank_lineFeed

end ElmPrerender.Json
