import Mathlib.Data.Bool.AllAny
import ElmPrerender.Proofs.Text.Split
import ElmPrerender.Proofs.Text.Words
import ElmPrerender.Url

/-!
# The path of a web address

An address is read part by part, and each part ends at a character that it cannot have. So a path
whose segments stand for themselves is found again in the address of a page, whatever query or
fragment is behind it. A text without a colon is no address.
-/

namespace ElmPrerender.Url

open Text (Firm dropEndWhile)

/-- A character that stands for itself in a path. -/
structure Kept (c : Char) : Prop where
  unescaped : isEscapedInPath c = false
  ascii : c.toNat < 0x80
  noBackslash : c ≠ '\\'

instance : DecidablePred Kept := fun c =>
  decidable_of_iff (isEscapedInPath c = false ∧ c.toNat < 0x80 ∧ c ≠ '\\')
    ⟨fun ⟨unescaped, ascii, noBackslash⟩ => ⟨unescaped, ascii, noBackslash⟩,
      fun h => ⟨h.unescaped, h.ascii, h.noBackslash⟩⟩

/-- A segment that is not resolved, of characters that are not escaped. -/
structure PlainSegment (segment : List Char) : Prop where
  kept : ∀ c ∈ segment, Kept c
  noDot : isDot segment = false
  noDoubleDot : isDoubleDot segment = false

/-- A path that is left as it is. -/
def PlainPath (path : List Char) : Prop := ∀ s ∈ List.splitOn '/' path, PlainSegment s

theorem Kept.printable {c : Char} (h : Kept c) : 0x20 < c.toNat ∧ c.toNat < 0x7F := by
  have hescape := h.unescaped
  have hascii := h.ascii
  simp only [isEscapedInPath, isControl, Bool.or_eq_false_iff, decide_eq_false_iff_not,
    beq_eq_false_iff_ne] at hescape
  have hspace : c.toNat ≠ 0x20 := by
    intro hc
    obtain rfl : c = ' ' := Char.toNat_inj.mp hc
    exact absurd h.unescaped (by decide)
  omega

theorem PlainPath.kept {path : List Char} (h : PlainPath path) : ∀ c ∈ path, Kept c := by
  intro c hc
  rcases Text.mem_of_mem_splitOn '/' hc with rfl | ⟨segment, hsegment, hcs⟩
  · decide
  · exact (h segment hsegment).kept c hcs

theorem isBreak_of_printable {c : Char} (h : 0x20 < c.toNat) : isBreak c = false := by
  simp only [isBreak, Bool.or_eq_false_iff, beq_eq_false_iff_ne]
  refine ⟨⟨?_, ?_⟩, ?_⟩ <;> rintro rfl <;> revert h <;> decide

theorem unbroken_of_printable {s : List Char} (h : ∀ c ∈ s, 0x20 < c.toNat) : unbroken s = s :=
  List.filter_eq_self.mpr fun c hc => by simp [isBreak_of_printable (h c hc)]

theorem escapeWhere_of_kept {s : List Char} (h : ∀ c ∈ s, Kept c) :
    escapeWhere isEscapedInPath s = s := by
  induction s with
  | nil => rfl
  | cons c r ih =>
    obtain ⟨hc, hr⟩ := List.forall_mem_cons.mp h
    have hascii : ¬ 0x80 ≤ c.toNat := not_le.mpr hc.ascii
    rw [escapeWhere, List.flatMap_cons, ← escapeWhere, ih hr]
    simp [hc.unescaped, hascii]

namespace PlainSegment

variable {segment : List Char}

/-- A dot segment begins with a dot, which may be written as an escape. -/
theorem of_head {c : Char} {r : List Char} (kept : ∀ d ∈ c :: r, Kept d) (noDot : c.toLower ≠ '.')
    (noEscape : c.toLower ≠ '%') : PlainSegment (c :: r) where
  kept := kept
  noDot := by
    have hc : c ≠ '.' := by
      rintro rfl
      exact noDot rfl
    simp [isDot, hc, noEscape]
  noDoubleDot := by simp [isDoubleDot, noDot, noEscape]

theorem nil : PlainSegment [] where
  kept := List.forall_mem_nil _
  noDot := by decide
  noDoubleDot := by decide

theorem unbroken (h : PlainSegment segment) : unbroken segment = segment :=
  unbroken_of_printable fun c hc => (h.kept c hc).printable.1

theorem addSegment (h : PlainSegment segment) (done : List (List Char)) :
    addSegment .web done segment = segment :: done := by
  simp only [Url.addSegment, h.unbroken, escapeWhere_of_kept h.kept]
  rfl

end PlainSegment

theorem resolveDots_of_plain {segments : List (List Char)} (plain : ∀ s ∈ segments, PlainSegment s)
    (done : List (List Char)) : resolveDots .web done segments = done.reverse ++ segments := by
  induction segments generalizing done with
  | nil => rw [resolveDots, List.append_nil]
  | cons s rest ih =>
    obtain ⟨hs, hrest⟩ := List.forall_mem_cons.mp plain
    rw [resolveDots, hs.unbroken, hs.noDot, hs.noDoubleDot, if_neg Bool.false_ne_true,
      if_neg Bool.false_ne_true, hs.addSegment, ih hrest, List.reverse_cons, List.append_assoc]
    rfl

theorem PlainSegment.path {s : List Char} (h : PlainSegment s) (single : '/' ∉ s) :
    PlainPath s := by
  rw [PlainPath, List.splitOn_eq_singleton single]
  exact List.forall_mem_singleton.mpr h

theorem PlainPath.append {path rest : List Char} (hpath : PlainPath path) (hrest : PlainPath rest) :
    PlainPath (path ++ '/' :: rest) := by
  rw [PlainPath, List.splitOn_append_cons_self]
  exact List.forall_mem_append.mpr ⟨hpath, hrest⟩

theorem PlainPath.nil : PlainPath [] := PlainSegment.nil.path (by simp)

theorem PlainPath.behindSlashes {path : List Char} (h : PlainPath path) (n : Nat) :
    PlainPath (List.replicate n '/' ++ path) := by
  induction n with
  | zero => exact h
  | succ n ih => exact PlainPath.nil.append ih

theorem PlainPath.beforeSlashes {path : List Char} (h : PlainPath path) (n : Nat) :
    PlainPath (path ++ List.replicate n '/') := by
  cases n with
  | zero => rwa [List.replicate_zero, List.append_nil]
  | succ n =>
    rw [List.replicate_succ]
    refine h.append ?_
    have hslashes := PlainPath.nil.behindSlashes n
    rwa [List.append_nil] at hslashes

/-- What may stand behind a path: nothing, a query or a fragment. -/
def Query (tail : List Char) : Prop := ∀ c ∈ tail.head?, c = '?' ∨ c = '#'

/-- Nothing is left of a query, or it begins as before. -/
theorem Query.of_prefix {tail rest : List Char} (h : Query tail) (part : rest <+: tail) :
    Query rest := by
  cases rest with
  | nil => rintro c ⟨⟩
  | cons c r =>
    obtain ⟨behind, rfl⟩ := part
    exact h

theorem Query.unbroken {tail : List Char} (h : Query tail) : Query (unbroken tail) := by
  cases tail with
  | nil => exact h
  | cons c r =>
    have hc : isBreak c = false := by rcases h c rfl with rfl | rfl <;> decide
    rw [Url.unbroken, List.filter_cons_of_pos (by simp [hc])]
    exact h

theorem Query.ends {tail : List Char} (h : Query tail) :
    ∀ c ∈ tail.head?, (c != '?' && c != '#') = false := by
  intro c hc
  rcases h c hc with rfl | rfl <;> decide

theorem upToQuery_append {path tail : List Char} (plain : PlainPath path) (query : Query tail) :
    upToQuery (path ++ tail) = path := by
  refine Text.takeWhile_append_of_stop ?_ query.ends
  intro c hc
  have hescape := (plain.kept c hc).unescaped
  simp only [isEscapedInPath, Bool.or_eq_false_iff, beq_eq_false_iff_ne] at hescape
  simp [hescape]

theorem rootedPath_append {path tail : List Char} (plain : PlainPath path) (query : Query tail) :
    rootedPath .web (path ++ tail) = '/' :: path := by
  have hslashes : path.map (fun c => if SchemeKind.web.isSlash c then '/' else c) = path := by
    refine (List.map_congr_left ?_).trans (List.map_id path)
    intro c hc
    have hbackslash := (plain.kept c hc).noBackslash
    by_cases hslash : c = '/' <;> simp [SchemeKind.isSlash, hslash, hbackslash]
  have hresolved : resolveDots .web [] (List.splitOn '/' path) = List.splitOn '/' path :=
    resolveDots_of_plain plain []
  rw [rootedPath, upToQuery_append plain query, hslashes, hresolved, List.intercalate_splitOn]
  rfl

/-- A character of a host in front of which nothing ends. -/
structure HostChar (c : Char) : Prop where
  printable : 0x20 < c.toNat
  inside : endsAuthority .web c = false
  noUser : c ≠ '@'
  noNumber : c ≠ ':'
  noBracket : c ≠ '['

instance : DecidablePred HostChar := fun c =>
  decidable_of_iff (0x20 < c.toNat ∧ endsAuthority .web c = false ∧ c ≠ '@' ∧ c ≠ ':' ∧ c ≠ '[')
    ⟨fun ⟨printable, inside, noUser, noNumber, noBracket⟩ =>
        ⟨printable, inside, noUser, noNumber, noBracket⟩,
      fun h => ⟨h.printable, h.inside, h.noUser, h.noNumber, h.noBracket⟩⟩

theorem hostText_append {host : List Char} (chars : ∀ c ∈ host, HostChar c) (rest : List Char) :
    hostText .web false (host ++ '/' :: rest) = host := by
  induction host with
  | nil => rfl
  | cons c r ih =>
    obtain ⟨hc, hr⟩ := List.forall_mem_cons.mp chars
    have hbracket : (c == '[' || (false && c != ']')) = false := by simp [hc.noBracket]
    rw [List.cons_append, hostText, hbracket, ih hr]
    simp [hc.inside, hc.noNumber]

theorem afterUser?_append {host : List Char} (chars : ∀ c ∈ host, HostChar c) (rest : List Char) :
    afterUser? .web (host ++ '/' :: rest) = some (false, host ++ '/' :: rest) := by
  have hauthority : (host ++ '/' :: rest).takeWhile (!endsAuthority .web ·) = host := by
    refine Text.takeWhile_append_of_stop (fun c hc => by simp [(chars c hc).inside]) ?_
    rintro c ⟨⟩
    rfl
  have huser : host.contains '@' = false := by
    simpa using fun h => (chars '@' h).noUser rfl
  rw [afterUser?, hauthority, huser]
  rfl

theorem pathAfterHost?_append {host path tail : List Char} (chars : ∀ c ∈ host, HostChar c)
    (known : isWebHost host = true) (nonempty : host ≠ []) (plain : PlainPath path)
    (query : Query tail) :
    pathAfterHost? .web (host ++ '/' :: (path ++ tail)) = some ('/' :: path) := by
  have hrest : (host ++ '/' :: (path ++ tail)).drop host.length = '/' :: (path ++ tail) :=
    List.drop_left
  have hpath : pathFrom .web ('/' :: (path ++ tail)) = '/' :: path := rootedPath_append plain query
  have hhost : host.isEmpty = false := by simpa using nonempty
  have hnumber : afterHostNumber? ('/' :: (path ++ tail)) = some ('/' :: (path ++ tail)) := rfl
  simp only [pathAfterHost?, afterUser?_append chars, Option.bind_eq_bind, Option.bind_some,
    hostText_append chars, hrest, hhost, known, hnumber, hpath]
  rfl

/-- Outer controls are only cut off behind the path. -/
theorem cleaned_append {front tail : List Char} (nonempty : front ≠ [])
    (printable : ∀ c ∈ front, 0x20 < c.toNat) (query : Query tail) :
    ∃ behind, Query behind ∧ cleaned (front ++ tail) = front ++ behind := by
  have firm : Firm (fun c => decide (c.toNat ≤ 0x20)) front :=
    .of_forall nonempty fun c hc => by simp [printable c hc]
  exact ⟨_, query.of_prefix (Text.dropEndWhile_prefix _ tail),
    firm.cut (List.forall_mem_nil _) tail⟩

theorem scheme?_https (rest : List Char) :
    scheme? ("https:".toList ++ rest) = some ("https".toList, rest) := rfl

theorem dropWhile_isSlash_append {host : List Char} (chars : ∀ c ∈ host, HostChar c)
    (nonempty : host ≠ []) (rest : List Char) :
    ("//".toList ++ (host ++ rest)).dropWhile SchemeKind.web.isSlash = host ++ rest := by
  obtain ⟨c, r, rfl⟩ := List.exists_cons_of_ne_nil nonempty
  refine Text.dropWhile_append_of_stop (List.all_eq_true.mp (by decide)) ?_
  rintro d ⟨⟩
  have hinside := (chars c List.mem_cons_self).inside
  rw [endsAuthority, Bool.or_assoc, Bool.or_eq_false_iff] at hinside
  exact hinside.1

/-- The path of a page is read as it is written. -/
theorem path?_webAddress {host path tail : List Char} (chars : ∀ c ∈ host, HostChar c)
    (known : isWebHost host = true) (nonempty : host ≠ []) (plain : PlainPath path)
    (query : Query tail) :
    path? ("https://".toList ++ (host ++ '/' :: path) ++ tail) = some ('/' :: path) := by
  have hprintable : ∀ c ∈ "https://".toList ++ (host ++ '/' :: path), 0x20 < c.toNat := by
    rw [List.forall_mem_append, List.forall_mem_append, List.forall_mem_cons]
    exact ⟨List.all_iff_forall_prop.mp (by decide), fun c hc => (chars c hc).printable, by decide,
      fun c hc => (plain.kept c hc).printable.1⟩
  obtain ⟨behind, hbehind, hcleaned⟩ := cleaned_append (by simp) hprintable query
  have hunbroken : unbroken ("https://".toList ++ (host ++ '/' :: path) ++ behind) =
      "https:".toList ++ ("//".toList ++ (host ++ '/' :: (path ++ unbroken behind))) := by
    rw [unbroken, List.filter_append, ← unbroken, unbroken_of_printable hprintable]
    simp [unbroken]
  have hkind : SchemeKind.ofScheme "https".toList = .web := by decide
  simp only [path?, hcleaned, hunbroken, scheme?_https, Option.bind_eq_bind, Option.bind_some,
    hkind, dropWhile_isSlash_append chars nonempty]
  exact pathAfterHost?_append chars known nonempty plain hbehind.unbroken

theorem colon_mem_of_scheme? {s : List Char} {found : List Char × List Char}
    (h : scheme? s = some found) : ':' ∈ s := by
  cases s with
  | nil => cases h
  | cons c r =>
    simp only [scheme?] at h
    split at h
    · cases h
    split at h
    · rename_i rest hdrop
      exact (List.dropWhile_suffix _).subset (hdrop ▸ List.mem_cons_self)
    · cases h

theorem mem_of_mem_cleaned {c : Char} {s : List Char} (h : c ∈ cleaned s) : c ∈ s :=
  (List.dropWhile_suffix _).subset ((Text.dropEndWhile_prefix _ _).subset h)

/-- A text without a colon has no scheme, so it is no address. -/
theorem path?_of_colon_notMem {text : List Char} (h : ':' ∉ text) : path? text = none := by
  have hscheme : scheme? (unbroken (cleaned text)) = none := by
    cases hfound : scheme? (unbroken (cleaned text)) with
    | none => rfl
    | some found =>
      have hcolon := (List.mem_filter.mp (colon_mem_of_scheme? hfound)).1
      exact absurd (mem_of_mem_cleaned hcolon) h
  rw [path?, hscheme]
  rfl

end ElmPrerender.Url
