import ElmPrerender.Proofs.Json.Accepted
import ElmPrerender.Proofs.Results

/-!
# Texts that end by themselves

A string ends with its quote and a list with its bracket, whatever follows. What a reader of strings
and lists has read it reads in the same way from every longer text, so a text that is cut off is not
taken for a shorter one. Numbers do not end by themselves.
-/

namespace ElmPrerender.Json.Reader

variable {α β : Type} {text : Bytes}

/-- What is read from a text is read from it whatever follows. -/
def Settled (r : Reader α) (text : Bytes) : Prop :=
  ∀ a rest, Reads r text a rest → ∀ more, Reads r (text ++ more) a (rest ++ more)

/-- A reader of texts that end by themselves. -/
def SelfDelimiting (r : Reader α) : Prop := ∀ text, Settled r text

theorem settled_pure (a : α) : Settled (pure a) text := by
  intro a' rest h more
  cases h
  exact reads_pure a _

theorem Settled.of_not_reads {r : Reader α} (h : ∀ a rest, ¬ Reads r text a rest) :
    Settled r text :=
  fun a rest hread => absurd hread (h a rest)

theorem settled_fail (cause : Cause) : Settled (fail cause : Reader α) text :=
  .of_not_reads fun _ _ => not_reads_fail _ _ _ _

theorem settled_failAtNext (cause : Cause) : Settled (failAtNext cause : Reader α) text :=
  .of_not_reads fun _ _ => not_reads_failAtNext _ _ _ _

theorem settled_wrongKind (expected : String) : Settled (wrongKind expected : Reader α) text :=
  .of_not_reads fun _ _ => not_reads_wrongKind _ _ _ _

theorem Settled.bind {r : Reader α} {f : α → Reader β} (first : Settled r text)
    (second : ∀ a middle, Reads r text a middle → Settled (f a) middle) :
    Settled (r >>= f) text := by
  intro b rest h more
  obtain ⟨a, middle, hr, hf⟩ := h.of_bind
  exact (first a middle hr more).bind (second a middle hr b rest hf more)

theorem Settled.map {r : Reader α} (f : α → β) (h : Settled r text) : Settled (f <$> r) text := by
  intro b rest hread more
  obtain ⟨a, hr, rfl⟩ := hread.of_map
  exact (h a rest hr more).map

theorem Settled.skip {r : Reader α} (h : Settled r text) (b : UInt8) :
    Settled (skipByte >>= fun _ => r) (b :: text) :=
  fun a rest hread more => h a rest hread more

/-- A reader that does not go on at the end of a text may look for its next byte. -/
theorem selfDelimiting_peeked {next : Option UInt8 → Reader α}
    (ends : ∀ a rest, ¬ Reads (next none) [] a rest)
    (goesOn : ∀ b inner, Settled (next (some b)) (b :: inner)) :
    SelfDelimiting (peek? >>= next) := by
  intro text a rest h more
  obtain ⟨found, middle, hpeek, hnext⟩ := h.of_bind
  cases hpeek
  cases hdrop : text.dropWhile isBlank with
  | nil =>
    rw [hdrop] at hnext
    exact absurd hnext (ends a rest)
  | cons b inner =>
    rw [hdrop] at hnext
    have hpeek : Reads peek? (text ++ more) (some b) (b :: inner ++ more) := by
      simp [Reads, peek?, List.dropWhile_append, hdrop]
    exact hpeek.bind (goesOn b inner a rest hnext more)

theorem selfDelimiting_peekValue : SelfDelimiting peekValue :=
  selfDelimiting_peeked (fun _ _ => not_reads_failAtNext _ _ _ _) fun b _ => settled_pure b

/-- Behind the first byte of a value, which is still to be read. -/
theorem selfDelimiting_value {next : UInt8 → Reader α}
    (goesOn : ∀ b inner, Settled (next b) (b :: inner)) : SelfDelimiting (peekValue >>= next) := by
  intro text
  refine (selfDelimiting_peekValue text).bind ?_
  intro b middle hpeek
  obtain ⟨hhead, rfl⟩ := hpeek.of_peekValue
  obtain ⟨inner, hinner⟩ := List.head?_eq_some_iff.mp hhead
  rw [hinner]
  exact goesOn b inner

theorem selfDelimiting_hexUnit : SelfDelimiting hexUnit := by
  intro text n rest h more
  unfold Reads hexUnit at h
  split at h
  · split at h
    · rename_i ha hb hc hd
      cases h
      simp only [Reads, hexUnit, List.cons_append, ha, hb, hc, hd]
    · cases h
  · cases h

theorem selfDelimiting_surrogateMark (expected : UInt8) :
    SelfDelimiting (surrogateMark expected) := by
  intro text ⟨⟩ rest h more
  rw [Reads.of_surrogateMark h, Reads, List.cons_append, surrogateMark, if_pos rfl]

theorem selfDelimiting_unicodeEscape : SelfDelimiting unicodeEscape := by
  intro text
  refine (selfDelimiting_hexUnit text).bind fun first middle _ => ?_
  by_cases hlow : isLowSurrogate first = true
  · rw [if_pos hlow]
    exact settled_fail _
  rw [if_neg hlow]
  by_cases hhigh : isHighSurrogate first = true
  · rw [if_pos hhigh]
    refine (selfDelimiting_surrogateMark _ _).bind fun _ _ _ => ?_
    refine (selfDelimiting_surrogateMark _ _).bind fun _ _ _ => ?_
    refine (selfDelimiting_hexUnit _).bind fun second _ _ => ?_
    by_cases hpair : isLowSurrogate second = true
    · rw [if_pos hpair]
      exact settled_pure _
    · rw [if_neg hpair]
      exact settled_fail _
  · rw [if_neg hhigh]
    exact settled_pure _

theorem selfDelimiting_escaped : SelfDelimiting escaped := by
  intro text c rest h more
  cases text with
  | nil => cases h
  | cons b r =>
    rw [Reads, escaped] at h
    rw [Reads, List.cons_append, escaped]
    by_cases hu : b = byte 'u'
    · rw [if_pos hu] at h ⊢
      exact selfDelimiting_unicodeEscape r c rest h more
    · rw [if_neg hu] at h ⊢
      cases hletter : ofEscapeLetter? b with
      | none =>
        rw [hletter] at h
        cases h
      | some letter =>
        rw [hletter] at h
        cases h
        rfl

/-- The loop over the bytes of a string, by induction on the steps that it may take: its end is read,
so steps that are left over change nothing. -/
theorem stringBytes_append {fuel : Nat} {s rest : Bytes}
    (h : stringBytes fuel text = .ok (s, rest)) {enough : Nat} (le : fuel ≤ enough) (more : Bytes) :
    stringBytes enough (text ++ more) = .ok (s, rest ++ more) := by
  induction fuel generalizing text s enough with
  | zero => cases h
  | succ fuel ih =>
    obtain ⟨enough, rfl⟩ : ∃ n, enough = n + 1 := ⟨enough - 1, by omega⟩
    cases text with
    | nil => cases h
    | cons b r =>
      rw [stringBytes] at h
      rw [List.cons_append, stringBytes]
      by_cases hquote : b = byte '"'
      · rw [if_pos hquote] at h ⊢
        cases h
        rfl
      rw [if_neg hquote] at h ⊢
      by_cases hescape : b = byte '\\'
      · rw [if_pos hescape] at h ⊢
        obtain ⟨⟨c, inner⟩, hescaped, h⟩ := bind_eq_ok_iff.mp h
        obtain ⟨⟨s', behind⟩, htail, h⟩ := bind_eq_ok_iff.mp h
        cases h
        refine bind_eq_ok_iff.mpr ⟨_, selfDelimiting_escaped r c inner hescaped more, ?_⟩
        exact bind_eq_ok_iff.mpr ⟨_, ih htail (by omega), rfl⟩
      rw [if_neg hescape] at h ⊢
      by_cases hcontrol : b < 0x20
      · rw [if_pos hcontrol] at h
        cases h
      · rw [if_neg hcontrol] at h ⊢
        obtain ⟨⟨s', behind⟩, htail, h⟩ := bind_eq_ok_iff.mp h
        cases h
        exact bind_eq_ok_iff.mpr ⟨_, ih htail (by omega), rfl⟩

theorem selfDelimiting_stringRest : SelfDelimiting stringRest := by
  intro text s rest h more
  obtain ⟨⟨bytes, behind⟩, hbytes, h⟩ := bind_eq_ok_iff.mp h
  have hlonger := stringBytes_append hbytes
    (show text.length + 1 ≤ (text ++ more).length + 1 by rw [List.length_append]; omega) more
  refine bind_eq_ok_iff.mpr ⟨_, hlonger, ?_⟩
  dsimp only at h ⊢
  split at h
  · cases h
    rfl
  · cases h

theorem selfDelimiting_string : SelfDelimiting string := by
  refine selfDelimiting_value fun b inner => ?_
  by_cases hb : b = byte '"'
  · rw [if_pos hb]
    exact (selfDelimiting_stringRest inner).skip b
  · rw [if_neg hb]
    exact settled_wrongKind _

theorem selfDelimiting_hasItem (first : Bool) : SelfDelimiting (hasItem first) := by
  refine selfDelimiting_peeked (fun _ _ => not_reads_failAtNext _ _ _ _) fun b inner => ?_
  dsimp only
  by_cases hclose : b = byte ']'
  · rw [if_pos hclose]
    exact settled_pure _
  rw [if_neg hclose]
  cases first with
  | true => exact settled_pure _
  | false =>
    rw [if_neg Bool.false_ne_true]
    by_cases hcomma : b = byte ','
    · rw [if_pos hcomma]
      refine Settled.skip (selfDelimiting_peeked ?_ ?_ inner) b
      · exact fun _ _ => not_reads_failAtNext _ _ _ _
      · intro c inner
        dsimp only
        by_cases htrailing : c = byte ']'
        · rw [if_pos htrailing]
          exact settled_failAtNext _
        · rw [if_neg htrailing]
          exact settled_pure _
    · rw [if_neg hcomma]
      exact settled_failAtNext _

theorem closeList_append {middle rest : Bytes} (h : closeList middle = (none, rest))
    (more : Bytes) : closeList (middle ++ more) = (none, rest ++ more) := by
  obtain ⟨blanks, hblanks, rfl⟩ := Reads.of_closeList h
  rw [List.append_assoc, List.cons_append]
  simp [closeList, dropWhile_blank hblanks (show isBlank (byte ']') = false by decide)]

theorem settled_openAt {content : Nat → Reader α} (h : ∀ depth, SelfDelimiting (content depth))
    (depth : Nat) (b : UInt8) : Settled (openAt depth content) (b :: text) := by
  cases depth with
  | zero => exact settled_failAtNext _
  | succ depth => exact (h depth text).skip b

theorem selfDelimiting_enclosed {content : Reader (Except Cause α)}
    (h : SelfDelimiting content) : SelfDelimiting (enclosed closeList content) := by
  intro text a rest hread more
  obtain ⟨middle, hcontent, hclose⟩ := hread.of_enclosed
  exact reads_enclosed (h text _ middle hcontent more) (closeList_append hclose more)

theorem selfDelimiting_nextItem {item : Reader α} (one : SelfDelimiting item) (length : Nat)
    (expected : String) : SelfDelimiting (nextItem item length expected) := by
  intro text
  refine (selfDelimiting_hasItem _ text).bind fun goesOn middle _ => ?_
  cases goesOn with
  | true => exact (one middle).map _
  | false => exact settled_pure _

theorem selfDelimiting_pair {first : Reader α} {second : Reader β} (one : SelfDelimiting first)
    (other : SelfDelimiting second) (depth : Nat) : SelfDelimiting (pair depth first second) := by
  refine selfDelimiting_value fun b inner => ?_
  by_cases hb : b = byte '['
  · rw [if_pos hb]
    refine settled_openAt (fun _ => selfDelimiting_enclosed fun text => ?_) depth b
    refine (selfDelimiting_nextItem one _ _ text).bind fun verdict middle _ => ?_
    cases verdict with
    | error cause => exact settled_pure _
    | ok a =>
      refine (selfDelimiting_nextItem other _ _ middle).bind fun verdict _ _ => ?_
      cases verdict with
      | error cause => exact settled_pure _
      | ok b => exact settled_pure _
  · rw [if_neg hb]
    exact settled_wrongKind _

/-- A list whose end comes next has no further items, whatever steps are left. -/
theorem reads_items_close {item : Reader α} {middle rest : Bytes}
    (closes : closeList middle = (none, rest)) (fuel : Nat) (first : Bool) :
    ∃ stop, Reads (items item fuel first) middle [] stop ∧ closeList stop = (none, rest) := by
  cases fuel with
  | zero => exact ⟨middle, reads_pure _ _, closes⟩
  | succ fuel =>
    obtain ⟨blanks, hblanks, rfl⟩ := Reads.of_closeList closes
    refine ⟨byte ']' :: rest, (reads_hasItem_close hblanks first rest).bind ?_, rfl⟩
    rw [if_neg Bool.false_ne_true]
    exact reads_pure _ _

/-- The loop over the items of a list, by induction on the steps that it may take. It stops without
an error when they are used up, but then the list ends there. -/
theorem reads_items_append {item : Reader α} (one : SelfDelimiting item) {fuel : Nat}
    {first : Bool} {values : List α} {middle rest : Bytes}
    (h : Reads (items item fuel first) text values middle)
    (closes : closeList middle = (none, rest)) {enough : Nat} (le : fuel ≤ enough) (more : Bytes) :
    ∃ stop, Reads (items item enough first) (text ++ more) values stop ∧
      closeList stop = (none, rest ++ more) := by
  induction fuel generalizing first text values enough with
  | zero =>
    cases h
    exact reads_items_close (closeList_append closes more) enough first
  | succ fuel ih =>
    obtain ⟨enough, rfl⟩ : ∃ n, enough = n + 1 := ⟨enough - 1, by omega⟩
    obtain ⟨goesOn, text₁, hhas, hitems⟩ := h.of_bind
    have hhas' := selfDelimiting_hasItem first text goesOn text₁ hhas more
    cases goesOn with
    | false =>
      rw [if_neg Bool.false_ne_true] at hitems
      cases hitems
      refine ⟨middle ++ more, hhas'.bind ?_, closeList_append closes more⟩
      rw [if_neg Bool.false_ne_true]
      exact reads_pure _ _
    | true =>
      rw [if_pos rfl] at hitems
      obtain ⟨a, text₂, hitem, hitems⟩ := hitems.of_bind
      obtain ⟨others, text₃, hothers, hpure⟩ := hitems.of_bind
      cases hpure
      obtain ⟨stop, hstop, hcloses⟩ := ih hothers (by omega : fuel ≤ enough)
      refine ⟨stop, hhas'.bind ?_, hcloses⟩
      rw [if_pos rfl]
      exact (one text₁ a text₂ hitem more).bind (hstop.bind (reads_pure _ _))

theorem selfDelimiting_listRest {item : Reader α} (one : SelfDelimiting item) :
    SelfDelimiting (listRest item) := by
  intro text values rest h more
  obtain ⟨middle, hcontent, hclose⟩ := Reads.of_enclosed h
  obtain ⟨values', hitems, hvalues⟩ := hcontent.of_map
  cases hvalues
  obtain ⟨stop, hstop, hcloses⟩ := reads_items_append one hitems hclose
    (show text.length + 1 ≤ (text ++ more).length + 1 by rw [List.length_append]; omega) more
  exact reads_enclosed hstop.map hcloses

theorem selfDelimiting_list {item : Nat → Reader α} (one : ∀ depth, SelfDelimiting (item depth))
    (expected : String) (depth : Nat) : SelfDelimiting (list expected depth item) := by
  refine selfDelimiting_value fun b inner => ?_
  by_cases hb : b = byte '['
  · rw [if_pos hb]
    exact settled_openAt (fun depth => selfDelimiting_listRest (one depth)) depth b
  · rw [if_neg hb]
    exact settled_wrongKind _

theorem Reads.of_finish {rest : Bytes} (h : Reads finish text () rest) : Blank text := by
  rcases h.of_peeked with ⟨hblank, -⟩ | ⟨blanks, b, inner, -, -, hnext⟩
  · exact hblank
  · exact absurd hnext (not_reads_failAtNext _ _ _ _)

/-- A whole text stays one before blanks, and before nothing else. -/
theorem parse_append_eq_ok_iff {r : Reader α} (h : SelfDelimiting r) {a b : α}
    (whole : Reader.parse r text = .ok a) (more : Bytes) :
    Reader.parse r (text ++ more) = .ok b ↔ b = a ∧ Blank more := by
  obtain ⟨middle, rest, hread, hfinish⟩ := reads_of_parse whole
  have hlonger := h text a middle hread more
  constructor
  · intro hparse
    obtain ⟨middle', rest', hread', hfinish'⟩ := reads_of_parse hparse
    obtain ⟨rfl, rfl⟩ := hlonger.unique hread'
    refine ⟨rfl, fun c hc => hfinish'.of_finish c (List.mem_append_right _ hc)⟩
  · rintro ⟨rfl, hmore⟩
    exact parse_eq_ok hlonger (hfinish.of_finish.append hmore)

theorem parse_of_trailing {r : Reader α} {a : α} {blanks more : Bytes} {b : UInt8}
    (h : Reads r text a (blanks ++ b :: more)) (hblanks : Blank blanks) (hb : isBlank b = false) :
    ∃ position, Reader.parse r text = .error ⟨.trailingCharacters, position⟩ := by
  have hfinish : finish (blanks ++ b :: more) = .error ⟨.trailingCharacters, more.length⟩ := by
    have hpeek : peek? (blanks ++ b :: more) = .ok (some b, b :: more) := reads_peek? hblanks hb more
    simp only [finish, bind, StateT.bind, Except.bind, hpeek]
    rfl
  have hwhole : (do let a ← r; finish; pure a : Reader α) text =
      .error ⟨.trailingCharacters, more.length⟩ := by
    simp only [Reads] at h
    simp only [bind, StateT.bind, Except.bind, h, hfinish]
  rw [Reader.parse, hwhole]
  exact ⟨_, rfl⟩

end ElmPrerender.Json.Reader
