import ElmPrerender.Proofs.Json.Values

/-!
# What typed readers accept

Objects and records are read as the reader of values reads them: whatever a typed reader accepts is
the text of a value, and the two readers stop at the same place.
-/

namespace ElmPrerender.Json.Reader

variable {α β : Type} {text rest : Bytes}

theorem blank_takeWhile (text : Bytes) : Blank (text.takeWhile isBlank) := fun _ hb =>
  List.all_eq_true.mp List.all_takeWhile _ hb

/-- A text by its first byte behind the blanks. -/
theorem exists_blanks {b : UInt8} (h : (text.dropWhile isBlank).head? = some b) :
    ∃ blanks inner, Blank blanks ∧ text = blanks ++ b :: inner ∧
      text.dropWhile isBlank = b :: inner := by
  obtain ⟨inner, hinner⟩ := List.head?_eq_some_iff.mp h
  refine ⟨text.takeWhile isBlank, inner, blank_takeWhile text, ?_, hinner⟩
  rw [← hinner, List.takeWhile_append_dropWhile]

/-- A reader that first looks at the next byte, by that byte. -/
theorem Reads.of_peeked {next : Option UInt8 → Reader α} {a : α}
    (h : Reads (peek? >>= next) text a rest) :
    (Blank text ∧ Reads (next none) [] a rest) ∨
      ∃ blanks b inner, Blank blanks ∧ text = blanks ++ b :: inner ∧
        Reads (next (some b)) (b :: inner) a rest := by
  obtain ⟨found, middle, hpeek, hnext⟩ := h.of_bind
  cases hpeek
  cases hdrop : text.dropWhile isBlank with
  | nil =>
    rw [hdrop] at hnext
    have hblank : Blank (text.takeWhile isBlank ++ text.dropWhile isBlank) := by
      rw [hdrop, List.append_nil]
      exact blank_takeWhile text
    rw [List.takeWhile_append_dropWhile] at hblank
    exact Or.inl ⟨hblank, hnext⟩
  | cons b inner =>
    rw [hdrop] at hnext
    refine Or.inr ⟨text.takeWhile isBlank, b, inner, blank_takeWhile text, ?_, hnext⟩
    rw [← hdrop, List.takeWhile_append_dropWhile]

theorem Reads.of_openAt {depth : Nat} {content : Nat → Reader α} {b : UInt8} {a : α}
    (h : Reads (openAt depth content) (b :: text) a rest) :
    ∃ inner, depth = inner + 1 ∧ Reads (content inner) text a rest := by
  cases depth with
  | zero => exact absurd h (not_reads_failAtNext _ _ _ _)
  | succ inner => exact ⟨inner, rfl, h.of_skip⟩

theorem Reads.of_enclosed {close : Bytes → Option Cause × Bytes}
    {content : Reader (Except Cause α)} {a : α} (h : Reads (enclosed close content) text a rest) :
    ∃ middle, Reads content text (.ok a) middle ∧ close middle = (none, rest) := by
  unfold Reads enclosed at h
  rcases hcontent : content text with fault | ⟨verdict, middle⟩
  · rw [hcontent] at h
    cases h
  · rw [hcontent] at h
    refine ⟨middle, ?_⟩
    simp only [Bind.bind, Except.bind] at h
    rcases hclose : close middle with ⟨cause, behind⟩
    rw [hclose] at h
    cases verdict with
    | error cause => cases h
    | ok value =>
      cases cause with
      | some cause => cases h
      | none =>
        cases h
        exact ⟨hcontent, rfl⟩

theorem Reads.of_object {depth : Nat} {written : List (String × Value)}
    (h : Reads (object depth) text written rest) :
    ∃ blanks inner nested, Blank blanks ∧ text = blanks ++ byte '{' :: inner ∧
      depth = nested + 1 ∧ Reads (objectRest (value nested)) inner written rest := by
  obtain ⟨b, middle, hpeek, hopen⟩ := h.of_bind
  obtain ⟨hhead, rfl⟩ := hpeek.of_peekValue
  by_cases hb : b = byte '{'
  · rw [if_pos hb] at hopen
    obtain ⟨blanks, inner, hblanks, htext, hdrop⟩ := exists_blanks hhead
    rw [hdrop] at hopen
    obtain ⟨nested, hdepth, hinner⟩ := hopen.of_openAt
    exact ⟨blanks, inner, nested, hblanks, hb ▸ htext, hdepth, hinner⟩
  · rw [if_neg hb] at hopen
    exact absurd hopen (not_reads_wrongKind _ _ _ _)

theorem reads_value_of_object {depth : Nat} {written : List (String × Value)}
    (h : Reads (object depth) text written rest) :
    Reads (value depth) text (.object (Members.ofList written)) rest := by
  obtain ⟨blanks, inner, nested, hblanks, rfl, rfl, hinner⟩ := h.of_object
  exact reads_object_ofList hblanks hinner

section Fields

variable {fields : List String} {item : String → Reader α} {fuel : Nat} {first : Bool}
  {done values : List (String × α)}

/-- Either the record ends, or it goes on with a field that it did not have. -/
theorem Reads.of_fieldValues
    (h : Reads (fieldValues fields item (fuel + 1) first done) text (.ok values) rest) :
    (Reads (hasMember first) text false rest ∧ values = done) ∨
      ∃ name a quoted afterName held inner, fields.contains name = true ∧
        done.any (·.1 == name) = false ∧ Reads (hasMember first) text true quoted ∧
        Reads stringRest quoted name afterName ∧ Reads colon afterName () held ∧
        Reads (item name) held a inner ∧
        Reads (fieldValues fields item fuel false (done ++ [(name, a)])) inner (.ok values)
          rest := by
  obtain ⟨goesOn, text₁, hmember, hrest⟩ := h.of_bind
  cases goesOn with
  | false =>
    rw [if_neg Bool.false_ne_true] at hrest
    cases hrest
    exact Or.inl ⟨hmember, rfl⟩
  | true =>
    rw [if_pos rfl] at hrest
    obtain ⟨name, text₂, hname, hfield⟩ := hrest.of_bind
    by_cases hunknown : (!fields.contains name) = true
    · rw [if_pos hunknown] at hfield
      cases hfield
    rw [if_neg hunknown] at hfield
    by_cases hduplicate : done.any (·.1 == name) = true
    · rw [if_pos hduplicate] at hfield
      cases hfield
    rw [if_neg hduplicate] at hfield
    obtain ⟨⟨⟩, text₃, hcolon, hvalue⟩ := hfield.of_bind
    obtain ⟨a, text₄, hitem, hothers⟩ := hvalue.of_bind
    exact Or.inr ⟨name, a, text₁, text₂, text₃, text₄, by simpa using hunknown,
      Bool.eq_false_iff.mpr hduplicate, hmember, hname, hcolon, hitem, hothers⟩

/-- The fields of a record are members of an object. -/
theorem members_of_fieldValues {nested : Reader Value} (toValue : α → Value)
    (reads : ∀ name text a rest, Reads (item name) text a rest → Reads nested text (toValue a) rest)
    (h : Reads (fieldValues fields item fuel first done) text (.ok values) rest) :
    ∃ more, values = done ++ more ∧
      Reads (members nested fuel first) text (more.map fun m => (m.1, toValue m.2)) rest := by
  induction fuel generalizing first done text with
  | zero =>
    cases h
    exact ⟨[], (List.append_nil _).symm, rfl⟩
  | succ fuel ih =>
    rcases h.of_fieldValues with ⟨hends, rfl⟩ |
      ⟨name, a, quoted, afterName, held, inner, -, -, hmember, hname, hcolon, hitem, hothers⟩
    · refine ⟨[], (List.append_nil _).symm, hends.bind ?_⟩
      rw [if_neg Bool.false_ne_true]
      exact reads_pure _ _
    · obtain ⟨more, rfl, hmore⟩ := ih hothers
      refine ⟨(name, a) :: more, List.append_assoc .., hmember.bind ?_⟩
      rw [if_pos rfl]
      exact hname.bind (hcolon.bind ((reads _ _ _ _ hitem).bind (hmore.bind (reads_pure _ _))))

/-- Each field is known, and none is there twice. -/
theorem distinct_of_fieldValues (known : ∀ m ∈ done, m.1 ∈ fields)
    (distinct : (done.map (·.1)).Nodup)
    (h : Reads (fieldValues fields item fuel first done) text (.ok values) rest) :
    (∀ m ∈ values, m.1 ∈ fields) ∧ (values.map (·.1)).Nodup := by
  induction fuel generalizing first done text with
  | zero =>
    cases h
    exact ⟨known, distinct⟩
  | succ fuel ih =>
    rcases h.of_fieldValues with ⟨-, rfl⟩ |
      ⟨name, a, quoted, afterName, held, inner, hname, hfresh, -, -, -, -, hothers⟩
    · exact ⟨known, distinct⟩
    · have hnew : ∀ m ∈ done, m.1 ≠ name := by simpa using hfresh
      refine ih ?_ ?_ hothers
      · intro m hm
        rcases List.mem_append.mp hm with hm | hm
        · exact known m hm
        · rw [List.mem_singleton.mp hm]
          simpa using hname
      · rw [List.map_append, List.nodup_append]
        refine ⟨distinct, List.pairwise_singleton _ _, ?_⟩
        intro old hold new hnew'
        obtain ⟨m, hm, rfl⟩ := List.mem_map.mp hold
        rw [List.mem_singleton.mp hnew']
        exact hnew m hm

end Fields

/-- The two ways to write a record. -/
theorem Reads.of_record {depth : Nat} {expected : String} {fields : List String}
    {item : Nat → String → Reader α} {ofFields : List (String × α) → Except Cause β}
    {ofList : Nat → Reader (Except Cause β)} {record : β}
    (h : Reads (Reader.record depth expected fields item ofFields ofList) text record rest) :
    ∃ blanks inner nested middle, Blank blanks ∧ depth = nested + 1 ∧
      ((text = blanks ++ byte '{' :: inner ∧ closeObject middle = (none, rest) ∧ ∃ values,
          Reads (fieldValues fields (item nested) (inner.length + 1) true []) inner (.ok values)
            middle ∧ ofFields values = .ok record) ∨
        (text = blanks ++ byte '[' :: inner ∧ closeList middle = (none, rest) ∧
          Reads (ofList nested) inner (.ok record) middle)) := by
  obtain ⟨b, start, hpeek, hopen⟩ := h.of_bind
  obtain ⟨hhead, rfl⟩ := hpeek.of_peekValue
  obtain ⟨blanks, inner, hblanks, htext, hdrop⟩ := exists_blanks hhead
  by_cases hlist : b = byte '['
  · rw [if_pos hlist, hdrop] at hopen
    obtain ⟨nested, hdepth, hinner⟩ := hopen.of_openAt
    obtain ⟨middle, hcontent, hclose⟩ := hinner.of_enclosed
    exact ⟨blanks, inner, nested, middle, hblanks, hdepth,
      Or.inr ⟨hlist ▸ htext, hclose, hcontent⟩⟩
  · rw [if_neg hlist] at hopen
    by_cases hobject : b = byte '{'
    · rw [if_pos hobject, hdrop] at hopen
      obtain ⟨nested, hdepth, hinner⟩ := hopen.of_openAt
      obtain ⟨middle, hcontent, hclose⟩ := Reads.of_enclosed hinner
      obtain ⟨verdict, middle', hvalues, hverdict⟩ := hcontent.of_bind
      cases hverdict' : verdict with
      | error cause =>
        rw [hverdict'] at hverdict
        cases hverdict
      | ok values =>
        rw [hverdict'] at hverdict hvalues
        obtain ⟨hof, rfl⟩ := Prod.mk.inj (Except.ok.inj hverdict)
        exact ⟨blanks, inner, nested, middle', hblanks, hdepth,
          Or.inl ⟨hobject ▸ htext, hclose, values, hvalues, hof⟩⟩
    · rw [if_neg hobject] at hopen
      exact absurd hopen (not_reads_wrongKind _ _ _ _)

/-- A record that is written as an object is one. -/
theorem reads_value_of_fieldValues {fields : List String} {nested : Nat}
    {item : String → Reader α} {blanks inner stop : Bytes} {values : List (String × α)}
    (toValue : α → Value) (hblanks : Blank blanks)
    (reads : ∀ name text a rest,
      Reads (item name) text a rest → Reads (value nested) text (toValue a) rest)
    (h : Reads (fieldValues fields item (inner.length + 1) true []) inner (.ok values) stop)
    (closes : closeObject stop = (none, rest)) :
    Reads (value (nested + 1)) (blanks ++ byte '{' :: inner)
      (.object (Members.ofList (values.map fun m => (m.1, toValue m.2)))) rest := by
  obtain ⟨more, hvalues, hmembers⟩ := members_of_fieldValues toValue reads h
  rw [List.nil_append] at hvalues
  rw [hvalues]
  exact reads_object_ofList hblanks (reads_enclosed hmembers.map closes)

theorem Reads.of_closeList {middle : Bytes} (h : closeList middle = (none, rest)) :
    ∃ blanks, Blank blanks ∧ middle = blanks ++ byte ']' :: rest := by
  unfold closeList at h
  split at h
  · cases h
  · rename_i b r hdrop
    split at h
    · rename_i hb
      cases h
      obtain ⟨blanks, inner, hblanks, hmiddle, hinner⟩ :=
        exists_blanks (b := b) (show (middle.dropWhile isBlank).head? = some b by rw [hdrop]; rfl)
      rw [hdrop] at hinner
      cases hinner
      exact ⟨blanks, hblanks, hb ▸ hmiddle⟩
    · split at h <;> cases h

/-- A list with one item of a known kind is a list of values. -/
theorem reads_value_of_oneItem {nested : Nat} {item : Reader α} {expected : String}
    {blanks inner middle : Bytes} {a : α} {v : Value} (hblanks : Blank blanks)
    (reads : ∀ text rest, Reads item text a rest → Reads (value nested) text v rest)
    (h : Reads (oneItem item expected) inner (.ok a) middle)
    (closes : closeList middle = (none, rest)) :
    Reads (value (nested + 1)) (blanks ++ byte '[' :: inner) (.array [v]) rest := by
  obtain ⟨goesOn, text₁, hhas, hitem⟩ := h.of_bind
  cases goesOn with
  | false =>
    rw [if_neg Bool.false_ne_true] at hitem
    cases hitem
  | true =>
    rw [if_pos rfl] at hitem
    obtain ⟨a', hread, ha⟩ := hitem.of_map
    cases ha
    obtain ⟨gap, hgap, rfl⟩ := Reads.of_closeList closes
    have hend : ∀ fuel, ∃ stop, Reads (items (value nested) fuel false)
        (gap ++ byte ']' :: rest) [] stop ∧ closeList stop = (none, rest) := by
      intro fuel
      cases fuel with
      | zero => exact ⟨_, reads_pure _ _, closes⟩
      | succ fuel =>
        refine ⟨byte ']' :: rest, (reads_hasItem_close hgap false rest).bind ?_, rfl⟩
        rw [if_neg Bool.false_ne_true]
        exact reads_pure _ _
    obtain ⟨stop, hstop, hcloses⟩ := hend inner.length
    refine reads_array hblanks (reads_enclosed (Reads.map ?_) hcloses)
    refine hhas.bind ?_
    rw [if_pos rfl]
    exact (reads _ _ hread).bind (hstop.bind (reads_pure _ _))

theorem reads_of_parse {content : Reader α} {a : α} (h : parse content text = .ok a) :
    ∃ middle rest, Reads content text a middle ∧ Reads finish middle () rest := by
  unfold parse at h
  split at h
  · rename_i a' rest hwhole
    cases h
    obtain ⟨a'', middle, hcontent, hfinish⟩ := Reads.of_bind hwhole
    obtain ⟨⟨⟩, _, hfinish, hpure⟩ := hfinish.of_bind
    cases hpure
    exact ⟨middle, rest, hcontent, hfinish⟩
  · cases h

theorem parse_of_reads {content : Reader α} {a : α} {middle : Bytes}
    (h : Reads content text a middle) (ends : Reads finish middle () rest) :
    parse content text = .ok a := by
  have hwhole := h.bind (f := fun a => finish >>= fun _ => pure a) (ends.bind (reads_pure a rest))
  rw [Reads] at hwhole
  rw [parse, hwhole]

end ElmPrerender.Json.Reader
