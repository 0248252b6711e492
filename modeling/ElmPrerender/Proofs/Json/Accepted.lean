import ElmPrerender.Proofs.Json.Repeated
import ElmPrerender.Proofs.Json.WrittenMembers

/-!
# What the reader of values accepts

A value that is read is not nested too deeply, and no object in it has a name twice. What holds of
the text from token to token holds of what the reader leaves, and with it what the text says about
its numbers.
-/

namespace ElmPrerender.Json

/-- No object anywhere in a value has a name twice. -/
inductive Value.Ordered : Value → Prop
  | null : Ordered .null
  | bool (b : Bool) : Ordered (.bool b)
  | number (n : Number) : Ordered (.number n)
  | string (s : String) : Ordered (.string s)
  | array {items : List Value} (ordered : ∀ v ∈ items, v.Ordered) : Ordered (.array items)
  | object {members : Members} (distinct : (members.map Prod.fst).Nodup)
      (ordered : ∀ m ∈ members, m.2.Ordered) : Ordered (.object members)

theorem Value.Within.ordered {Fit : Number → Prop} {depth : Nat} {v : Value}
    (h : v.Within Fit depth) : v.Ordered := by
  induction depth generalizing v with
  | zero =>
    cases v with
    | array | object => exact h.elim
    | null | bool | number | string => constructor
  | succ depth ih =>
    cases v with
    | array items => exact .array fun v hv => ih (h v hv)
    | object members => exact .object h.1 fun m hm => ih (h.2 m hm)
    | null | bool | number | string => constructor

theorem Members.mem_insert {members : Members} {name : String} {v : Value} {m : String × Value}
    (h : m ∈ members.insert name v) : m = (name, v) ∨ m ∈ members := by
  induction members with
  | nil => exact Or.inl (List.mem_singleton.mp h)
  | cons first rest ih =>
    obtain ⟨other, old⟩ := first
    by_cases hname : other = name
    · rw [Members.insert, if_pos hname, hname] at h
      exact (List.mem_cons.mp h).imp_right (List.mem_cons_of_mem _)
    · rw [Members.insert, if_neg hname] at h
      rcases List.mem_cons.mp h with rfl | hrest
      · exact Or.inr List.mem_cons_self
      · exact (ih hrest).imp_right (List.mem_cons_of_mem _)

/-- No member is made up. -/
theorem Members.mem_of_mem_ofList {written : List (String × Value)} {m : String × Value}
    (h : m ∈ Members.ofList written) : m ∈ written := by
  induction written using List.reverseRecOn with
  | nil => exact h
  | append_singleton rest last ih =>
    rw [Members.ofList_concat] at h
    rcases Members.mem_insert h with rfl | hrest
    · simp
    · exact List.mem_append_left _ (ih hrest)

namespace Reader

variable {text rest : Bytes}

theorem Reads.of_keyword {word : List Char} (h : Reads (keyword word) text () rest) :
    text = word.map byte ++ rest := by
  induction word generalizing text with
  | nil =>
    cases h
    rfl
  | cons c word ih =>
    cases text with
    | nil => cases h
    | cons b r =>
      simp only [Reads, keyword] at h
      by_cases hb : b = byte c
      · rw [if_pos hb] at h
        rw [hb, ih h]
        rfl
      · rw [if_neg hb] at h
        cases h

theorem Reads.of_surrogateMark {b : UInt8} (h : Reads (surrogateMark b) text () rest) :
    text = b :: rest := by
  cases text with
  | nil => cases h
  | cons c r =>
    simp only [Reads, surrogateMark] at h
    by_cases hc : c = b
    · rw [if_pos hc] at h
      cases h
      rw [hc]
    · rw [if_neg hc] at h
      cases h

theorem Reads.of_hasItem {first goesOn : Bool} (h : Reads (hasItem first) text goesOn rest) :
    (goesOn = false ∧ ∃ blanks inner, Blank blanks ∧ text = blanks ++ byte ']' :: inner ∧
        rest = byte ']' :: inner) ∨
      (goesOn = true ∧ ∃ gap, Gap first gap ∧ text = gap ++ rest) := by
  rcases h.of_peeked with ⟨-, hnext⟩ | ⟨blanks, b, inner, hblanks, htext, hnext⟩
  · exact absurd hnext (not_reads_failAtNext _ _ _ _)
  dsimp only at hnext
  by_cases hclose : b = byte ']'
  · rw [if_pos hclose] at hnext
    cases hnext
    exact Or.inl ⟨rfl, blanks, inner, hblanks, hclose ▸ htext, hclose ▸ rfl⟩
  rw [if_neg hclose] at hnext
  cases first with
  | true =>
    rw [if_pos rfl] at hnext
    cases hnext
    exact Or.inr ⟨rfl, blanks, hblanks, htext⟩
  | false =>
    rw [if_neg Bool.false_ne_true] at hnext
    by_cases hcomma : b = byte ','
    · rw [if_pos hcomma] at hnext
      subst hcomma
      obtain ⟨gap, c, behind, hgap, hgapped, hnext⟩ :=
        Reads.of_comma hblanks (fun _ _ => not_reads_failAtNext _ _ _ _) hnext
      dsimp only at hnext
      by_cases htrailing : c = byte ']'
      · rw [if_pos htrailing] at hnext
        exact absurd hnext (not_reads_failAtNext _ _ _ _)
      · rw [if_neg htrailing] at hnext
        cases hnext
        exact Or.inr ⟨rfl, gap, hgap, htext.trans hgapped⟩
    · rw [if_neg hcomma] at hnext
      exact absurd hnext (not_reads_failAtNext _ _ _ _)

/-- What a value is and what it leaves, by its first byte and the text behind that. -/
inductive Spells (nested : Option (Reader Value)) : UInt8 → Bytes → Value → Bytes → Prop where
  | null (rest : Bytes) : Spells nested (byte 'n') (['u', 'l', 'l'].map byte ++ rest) .null rest
  | true (rest : Bytes) :
      Spells nested (byte 't') (['r', 'u', 'e'].map byte ++ rest) (.bool true) rest
  | false (rest : Bytes) :
      Spells nested (byte 'f') (['a', 'l', 's', 'e'].map byte ++ rest) (.bool false) rest
  | number {b : UInt8} {inner rest : Bytes} {n : Number}
      (reads : Reads signedNumber (b :: inner) n rest) : Spells nested b inner (.number n) rest
  | string {inner rest : Bytes} {s : String} (reads : Reads stringRest inner s rest) :
      Spells nested (byte '"') inner (.string s) rest
  | array {item : Reader Value} {inner rest : Bytes} {items : List Value}
      (some : nested = some item) (reads : Reads (listRest item) inner items rest) :
      Spells nested (byte '[') inner (.array items) rest
  | object {item : Reader Value} {inner rest : Bytes} {written : List (String × Value)}
      (some : nested = some item) (reads : Reads (objectRest item) inner written rest) :
      Spells nested (byte '{') inner (.object (Members.ofList written)) rest

theorem Reads.of_valueOver {nested : Option (Reader Value)} {v : Value}
    (h : Reads (valueOver nested) text v rest) :
    ∃ blanks b inner, Blank blanks ∧ text = blanks ++ b :: inner ∧
      Spells nested b inner v rest := by
  rcases h.of_peeked with ⟨-, hnext⟩ | ⟨blanks, b, inner, hblanks, htext, hnext⟩
  · exact absurd hnext (not_reads_failAtNext _ _ _ _)
  dsimp only at hnext
  refine ⟨blanks, b, inner, hblanks, htext, ?_⟩
  have hword : ∀ {word : List Char} {w : Value},
      Reads (skipByte >>= fun _ => keyword word >>= fun _ => pure w : Reader Value)
        (b :: inner) v rest → v = w ∧ inner = word.map byte ++ rest := by
    intro word w hread
    obtain ⟨⟨⟩, _, hkeyword, hpure⟩ := hread.of_skip.of_bind
    cases hpure
    exact ⟨rfl, hkeyword.of_keyword⟩
  by_cases hn : b = byte 'n'
  · rw [if_pos hn] at hnext
    obtain ⟨rfl, rfl⟩ := hword hnext
    exact hn ▸ .null rest
  rw [if_neg hn] at hnext
  by_cases ht : b = byte 't'
  · rw [if_pos ht] at hnext
    obtain ⟨rfl, rfl⟩ := hword hnext
    exact ht ▸ .true rest
  rw [if_neg ht] at hnext
  by_cases hf : b = byte 'f'
  · rw [if_pos hf] at hnext
    obtain ⟨rfl, rfl⟩ := hword hnext
    exact hf ▸ .false rest
  rw [if_neg hf] at hnext
  by_cases hnumber : (decide (b = byte '-') || isDigit b) = true
  · rw [if_pos hnumber] at hnext
    obtain ⟨n, hread, rfl⟩ := hnext.of_map
    exact .number hread
  rw [if_neg hnumber] at hnext
  by_cases hquote : b = byte '"'
  · rw [if_pos hquote] at hnext
    obtain ⟨s, hread, rfl⟩ := hnext.of_skip.of_map
    exact hquote ▸ .string hread
  rw [if_neg hquote] at hnext
  by_cases hlist : b = byte '['
  · rw [if_pos hlist] at hnext
    cases nested with
    | none => exact absurd hnext (not_reads_failAtNext _ _ _ _)
    | some item =>
      obtain ⟨items, hread, rfl⟩ := hnext.of_skip.of_map
      exact hlist ▸ .array rfl hread
  rw [if_neg hlist] at hnext
  by_cases hobject : b = byte '{'
  · rw [if_pos hobject] at hnext
    cases nested with
    | none => exact absurd hnext (not_reads_failAtNext _ _ _ _)
    | some item =>
      obtain ⟨written, hread, rfl⟩ := hnext.of_skip.of_map
      exact hobject ▸ .object rfl hread
  · rw [if_neg hobject] at hnext
    exact absurd hnext (not_reads_failAtNext _ _ _ _)

/-- A byte that begins neither a string nor a number. -/
def IsMark (b : UInt8) : Prop := b ≠ byte '"' ∧ b ≠ byte '-' ∧ isDigit b = false

instance (b : UInt8) : Decidable (IsMark b) := inferInstanceAs (Decidable (_ ∧ _ ∧ _))

theorem isMark_of_isBlank {b : UInt8} (h : isBlank b = true) : IsMark b := by
  simp only [isBlank, Bool.or_eq_true, beq_iff_eq] at h
  rcases h with ((rfl | rfl) | rfl) | rfl <;> decide

/-- A property of texts that the text behind each token has, with what it says of a number. -/
structure Scans (Good : Bytes → Prop) (Fit : Number → Prop) : Prop where
  mark : ∀ {b r}, IsMark b → Good (b :: r) → Good r
  string : ∀ {r s rest}, Good (byte '"' :: r) → Reads stringRest r s rest → Good rest
  number : ∀ {text n rest}, Good text → Reads signedNumber text n rest → Fit n ∧ Good rest

namespace Scans

variable {Good : Bytes → Prop} {Fit : Number → Prop} (scans : Scans Good Fit)

include scans

theorem marks {marks : Bytes} (h : ∀ b ∈ marks, IsMark b) (good : Good (marks ++ rest)) :
    Good rest := by
  induction marks with
  | nil => exact good
  | cons b marks ih =>
    exact ih (fun c hc => h c (List.mem_cons_of_mem b hc))
      (scans.mark (h b List.mem_cons_self) good)

theorem blanks {blanks : Bytes} (h : Blank blanks) (good : Good (blanks ++ rest)) : Good rest :=
  scans.marks (fun b hb => isMark_of_isBlank (h b hb)) good

theorem gap {first : Bool} {gap : Bytes} (h : Gap first gap) (good : Good (gap ++ rest)) :
    Good rest := by
  cases first with
  | true => exact scans.blanks h good
  | false =>
    obtain ⟨before, after, hbefore, hafter, rfl⟩ := h
    rw [List.append_assoc, List.cons_append] at good
    exact scans.blanks hafter (scans.mark (by decide) (scans.blanks hbefore good))

section Loops

variable {item : Reader Value} {P : Value → Prop}
  (one : ∀ {text v rest}, Good text → Reads item text v rest → P v ∧ Good rest)

include one

/-- The loop over the items of a list, by induction on the steps that it may take. -/
theorem items {fuel : Nat} {first : Bool} {values : List Value} (good : Good text)
    (h : Reads (items item fuel first) text values rest) : (∀ v ∈ values, P v) ∧ Good rest := by
  induction fuel generalizing first text values with
  | zero =>
    cases h
    exact ⟨List.forall_mem_nil _, good⟩
  | succ fuel ih =>
    obtain ⟨goesOn, middle, hitem, hnext⟩ := h.of_bind
    rcases hitem.of_hasItem with ⟨rfl, blanks, inner, hblanks, rfl, rfl⟩ | ⟨rfl, gap, hgap, rfl⟩
    · rw [if_neg Bool.false_ne_true] at hnext
      cases hnext
      exact ⟨List.forall_mem_nil _, scans.blanks hblanks good⟩
    · rw [if_pos rfl] at hnext
      obtain ⟨v, others, hv, hnext⟩ := hnext.of_bind
      obtain ⟨more, _, hmore, hpure⟩ := hnext.of_bind
      cases hpure
      obtain ⟨hfirst, good⟩ := one (scans.gap hgap good) hv
      obtain ⟨hrest, good⟩ := ih good hmore
      exact ⟨List.forall_mem_cons.mpr ⟨hfirst, hrest⟩, good⟩

theorem members {fuel : Nat} {first : Bool} {written : List (String × Value)} (good : Good text)
    (h : Reads (members item fuel first) text written rest) :
    (∀ m ∈ written, P m.2) ∧ Good rest := by
  induction fuel generalizing first text written with
  | zero =>
    cases h
    exact ⟨List.forall_mem_nil _, good⟩
  | succ fuel ih =>
    obtain ⟨goesOn, middle, hmember, hnext⟩ := h.of_bind
    rcases hmember.of_hasMember with ⟨rfl, blanks, inner, hblanks, rfl, rfl⟩ | ⟨rfl, gap, hgap, rfl⟩
    · rw [if_neg Bool.false_ne_true] at hnext
      cases hnext
      exact ⟨List.forall_mem_nil _, scans.blanks hblanks good⟩
    · rw [if_pos rfl] at hnext
      obtain ⟨name, afterName, hname, hnext⟩ := hnext.of_bind
      obtain ⟨⟨⟩, held, hcolon, hnext⟩ := hnext.of_bind
      obtain ⟨v, others, hv, hnext⟩ := hnext.of_bind
      obtain ⟨more, _, hmore, hpure⟩ := hnext.of_bind
      cases hpure
      obtain ⟨space, hspace, rfl⟩ := hcolon.of_colon
      have good := scans.string (scans.gap hgap good) hname
      obtain ⟨hfirst, good⟩ := one (scans.mark (by decide) (scans.blanks hspace good)) hv
      obtain ⟨hrest, good⟩ := ih good hmore
      exact ⟨List.forall_mem_cons.mpr ⟨hfirst, hrest⟩, good⟩

theorem listRest {values : List Value} (good : Good text)
    (h : Reads (listRest item) text values rest) : (∀ v ∈ values, P v) ∧ Good rest := by
  obtain ⟨middle, hitems, hcloses⟩ := Reads.of_enclosed h
  obtain ⟨values', hitems, hvalues⟩ := hitems.of_map
  cases hvalues
  obtain ⟨hall, good⟩ := scans.items one good hitems
  obtain ⟨blanks, hblanks, rfl⟩ := Reads.of_closeList hcloses
  exact ⟨hall, scans.mark (by decide) (scans.blanks hblanks good)⟩

theorem objectRest {written : List (String × Value)} (good : Good text)
    (h : Reads (objectRest item) text written rest) : (∀ m ∈ written, P m.2) ∧ Good rest := by
  obtain ⟨middle, hmembers, hcloses⟩ := Reads.of_enclosed h
  obtain ⟨written', hmembers, hwritten⟩ := hmembers.of_map
  cases hwritten
  obtain ⟨hall, good⟩ := scans.members one good hmembers
  obtain ⟨blanks, hblanks, rfl⟩ := of_closeObject hcloses
  exact ⟨hall, scans.mark (by decide) (scans.blanks hblanks good)⟩

end Loops

/-- A value by its first byte. What it nests lies one level deeper. -/
theorem spelled {nested : Option (Reader Value)} {depth : Nat} {b : UInt8} {inner : Bytes}
    {v : Value}
    (inside : ∀ item, nested = some item → ∃ deeper, depth = deeper + 1 ∧
      ∀ {text v rest}, Good text → Reads item text v rest → v.Within Fit deeper ∧ Good rest)
    (good : Good (b :: inner)) (h : Spells nested b inner v rest) :
    v.Within Fit depth ∧ Good rest := by
  have hword : ∀ {word : List Char}, (b :: word.map byte).all (IsMark ·) = true →
      Good (b :: (word.map byte ++ rest)) → Good rest :=
    fun letters good =>
      scans.marks (fun c hc => of_decide_eq_true (List.all_eq_true.mp letters c hc)) good
  cases h with
  | null => exact ⟨by simp only [Value.Within], hword (by decide) good⟩
  | true => exact ⟨by simp only [Value.Within], hword (by decide) good⟩
  | false => exact ⟨by simp only [Value.Within], hword (by decide) good⟩
  | number reads => simpa only [Value.Within] using scans.number good reads
  | string reads => exact ⟨by simp only [Value.Within], scans.string good reads⟩
  | array some reads =>
    obtain ⟨deeper, rfl, one⟩ := inside _ some
    exact scans.listRest one (scans.mark (by decide) good) reads
  | object some reads =>
    obtain ⟨deeper, rfl, one⟩ := inside _ some
    obtain ⟨hall, good⟩ := scans.objectRest one (scans.mark (by decide) good) reads
    exact ⟨⟨Members.nodup_names_ofList _, fun m hm => hall m (Members.mem_of_mem_ofList hm)⟩, good⟩

/-- A value of any nesting, by induction on the depth that is left. -/
theorem value {depth : Nat} {v : Value} (good : Good text) (h : Reads (value depth) text v rest) :
    v.Within Fit depth ∧ Good rest := by
  induction depth generalizing text v rest with
  | zero =>
    obtain ⟨blanks, b, inner, hblanks, rfl, spells⟩ := Reads.of_valueOver h
    refine scans.spelled ?_ (scans.blanks hblanks good) spells
    intro item hnone
    cases hnone
  | succ depth ih =>
    obtain ⟨blanks, b, inner, hblanks, rfl, spells⟩ := Reads.of_valueOver h
    refine scans.spelled ?_ (scans.blanks hblanks good) spells
    intro item hsome
    cases hsome
    exact ⟨depth, rfl, ih⟩

end Scans

end Reader

theorem Value.ordered_of_parse {text : String} {v : Value} (h : Value.parse text = .ok v) :
    v.Ordered := by
  obtain ⟨middle, rest, hread, -⟩ := Reader.reads_of_parse h
  have anything : Reader.Scans (fun _ => True) (fun _ => True) :=
    ⟨fun _ _ => trivial, fun _ _ => trivial, fun _ _ => ⟨trivial, trivial⟩⟩
  exact (anything.value trivial hread).1.ordered

end ElmPrerender.Json
