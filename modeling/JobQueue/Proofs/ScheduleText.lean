import JobQueue.Proofs.InstantText
import JobQueue.Schedule.Encoding
import Mathlib.Data.List.DropRight

/-!
# The stored form of schedules

A schedule is stored as a tagged JSON object and read back by `Schedule.ofJson`. This module
says exactly what that round trip keeps and what reading lets in.

* **The reading side.** `Schedule.Readable` names the schedules the stored form can hold:
  instants the clock type can hold, any period below `2^64`, and cron expressions as the
  checked constructor makes them (`CronSpec.Made`). Each of them reads back from its stored
  text as itself (`Schedule.ofJson_toJson_readable`), and every text that is read gives one of
  them (`Schedule.readable_of_ofJson`).
* **The building side.** `Schedule.Built` names the schedules the checked constructors give.
  They are exactly the readable ones whose period fits a signed 64-bit word
  (`Schedule.built_iff`): every constructor takes or brings its count into that word.
* **The gap.** Reading checks a period against `2^64`, building against `2^63`, so a stored
  period from `2^63` on is read back though no constructor gives it.

The reading goes through the text as the reader does: a tagged object written compactly reads
as its tag and its other members (`Json.Reader.tagged_compact`), each member value by the reader
of plain data, each instant by `Instant.parse_text`, and a cron expression is made again from
its trimmed text and its zone's name (`CronSpec.make_of_made`).

**Main statements**

* `Schedule.stored_form_faithful` — built schedules read back as themselves; read schedules are
  built, or intervals too wide for a signed 64-bit word.
* `Schedule.wide_period_loads` — a stored period of `2^63` seconds is read.
-/

namespace JobQueue.Json

/-! ## Tagged documents -/

namespace Reader

variable {c : Cursor} {key : String} {variants : List String}

/-- The first member of a tagged object is read where it stands, key first. -/
lemma taggedMembers_first {fuel depth : Nat} {tag : Option String} {acc : List (String × Value)}
    {t : List Char} (hc : c.rest = '"' :: t) :
    taggedMembers key variants (fuel + 1) depth c true tag acc =
      (do
        let (k, c') ← string c.rest.length c.bump #[]
        if k == key then
          if tag.isSome then .error ((Mismatch.duplicateField key).errorAt (pastClose '}' c'))
          else do
            let c' ← colon c'
            let (t, c') ← tagValue variants c'
            taggedMembers key variants fuel depth c' false (some t) acc
        else do
          let c' ← colon c'
          let (v, c') ← value fuel depth c'
          taggedMembers key variants fuel depth c' false tag ((k, v) :: acc)) := by
  rw [taggedMembers.eq_def]
  dsimp only
  rw [Cursor.skipSpace_of_rest hc (by decide), Cursor.peek_of_rest hc]
  simp only [Bool.not_true, Bool.and_false, Bool.false_eq_true, ↓reduceIte,
    Cursor.peek_of_rest hc]
  rfl

/-- After a comma, a tagged object reads on as it reads its first member. -/
lemma taggedMembers_comma {fuel depth : Nat} {tag : Option String} {acc : List (String × Value)}
    {t : List Char} (hc : c.rest = ',' :: '"' :: t) :
    taggedMembers key variants (fuel + 1) depth c false tag acc =
      taggedMembers key variants (fuel + 1) depth c.bump true tag acc := by
  have hc₁ := Cursor.rest_bump hc
  rw [taggedMembers_first hc₁, taggedMembers.eq_def]
  dsimp only
  rw [Cursor.skipSpace_of_rest hc (by decide), Cursor.peek_of_rest hc]
  split
  · next h => exact absurd h (by decide)
  · next h => cases h
  · next h =>
    cases h
    simp only [beq_self_eq_true, Bool.not_false, Bool.and_self, ↓reduceIte,
      Cursor.skipSpace_of_rest hc₁ (by decide), Cursor.peek_of_rest hc₁]

/-- A closing brace ends a tagged object whose tag has been read. -/
lemma taggedMembers_close {fuel depth : Nat} {first : Bool} {tag : String}
    {acc : List (String × Value)} {t : List Char} (hc : c.rest = '}' :: t) :
    taggedMembers key variants (fuel + 1) depth c first (some tag) acc =
      .ok ((tag, acc.reverse), c.bump) := by
  rw [taggedMembers, Cursor.skipSpace_of_rest hc (by decide), Cursor.peek_of_rest hc]
  rfl

/-- **A quoted text reads as itself**, from its opening quote on. -/
lemma string_of_quote {s : String} {r : List Char} (hc : c.rest = (quote s).toList ++ r) :
    ∃ c', c'.rest = r ∧ string c.rest.length c.bump #[] = .ok (s, c') := by
  simp only [toList_quote, List.cons_append, List.append_assoc, List.nil_append] at hc
  -- Each character takes at least one place in its escaped form.
  have hfuel : s.toList.length < c.rest.length := by
    have := length_le_flatMap_escapeChar s.toList
    rw [hc]
    simp only [List.length_cons, List.length_append]
    omega
  obtain ⟨c', hc', hstr⟩ := string_quoted s.toList c.bump c.rest.length #[]
    (Cursor.rest_bump hc) hfuel
  refine ⟨c', hc', ?_⟩
  simpa only [List.nil_append, String.ofList_toList] using hstr

/-- **A quoted variant name reads as the tag.** -/
lemma tagValue_quoted {tag : String} {r : List Char} (hc : c.rest = (quote tag).toList ++ r)
    (ht : tag ∈ variants) :
    ∃ c', c'.rest = r ∧ tagValue variants c = .ok (tag, c') := by
  obtain ⟨c', hc', hstr⟩ := string_of_quote hc
  refine ⟨c', hc', ?_⟩
  rw [toList_quote, List.cons_append] at hc
  rw [tagValue, Cursor.skipSpace_of_rest hc (by decide), Cursor.peek_of_rest hc]
  simp only [hstr, bind, Except.bind, List.contains_iff_mem.2 ht, if_true, pure, Except.pure]

/-- **A member other than the tag** is read as a plain member, from its comma on. -/
lemma taggedMembers_member {fuel depth : Nat} {k : String} {v : Value} {r : List Char}
    (hc : c.rest = ',' :: (memberText (k, v) ++ r)) (hk : k ≠ key) (hv : v.ReadsBack)
    (hr : Follows r) (hlen : v.compact.toList.length ≤ fuel) (hd : v.depth ≤ depth) :
    ∃ c', c'.rest = r ∧ ∀ variants tag acc,
      taggedMembers key variants (fuel + 1) depth c false tag acc =
        taggedMembers key variants fuel depth c' false tag ((k, v) :: acc) := by
  obtain ⟨c₁, c₂, hstr, hcolon, hval, hc₂⟩ := Value.member_of_rest hv fuel
    c.bump (Cursor.rest_bump hc) hr hlen hd
  refine ⟨c₂, hc₂, fun variants tag acc => ?_⟩
  have ht := hc
  rw [Value.toList_memberText, List.cons_append] at ht
  rw [taggedMembers_comma ht, taggedMembers_first (Cursor.rest_bump ht), hstr]
  simp only [bind, Except.bind, beq_false_of_ne hk, Bool.false_eq_true, ↓reduceIte]
  rw [hcolon]
  simp only
  rw [hval]

/-- **The tag member comes first**: its key, a colon and a variant name. -/
lemma taggedMembers_tag {tag : String} {r : List Char}
    (hc : c.rest = memberText (key, .string tag) ++ r) (ht : tag ∈ variants) :
    ∃ c', c'.rest = r ∧ ∀ fuel depth acc,
      taggedMembers key variants (fuel + 1) depth c true none acc =
        taggedMembers key variants fuel depth c' false (some tag) acc := by
  -- The member is the quoted key, a colon and the quoted variant name.
  have hkey : c.rest = (quote key).toList ++ ':' :: ((quote tag).toList ++ r) := by
    rw [hc, memberText]
    simp [Value.compact]
  obtain ⟨c₁, hc₁, hstr⟩ := string_of_quote hkey
  have hq : c₁.bump.rest = (quote tag).toList ++ r := Cursor.rest_bump hc₁
  obtain ⟨c₂, hc₂, htag⟩ := tagValue_quoted hq ht
  refine ⟨c₂, hc₂, fun fuel depth acc => ?_⟩
  rw [toList_quote, List.cons_append] at hkey
  rw [taggedMembers_first hkey, hstr]
  simp only [bind, Except.bind, beq_self_eq_true, ↓reduceIte, Option.isSome_none,
    Bool.false_eq_true, colon_of_rest hc₁, htag]

/-- **The members after the tag read back**, each after its comma, up to the closing brace. -/
lemma taggedMembers_rest (variants : List String) (depth : Nat) (tag : String) {r : List Char} :
    ∀ (ms : List (String × Value)) (fuel : Nat) (c : Cursor) (acc : List (String × Value)),
      (∀ m ∈ ms, m.1 ≠ key) → (∀ m ∈ ms, m.2.ReadsBack) → (∀ m ∈ ms, m.2.depth ≤ depth) →
      c.rest = restMembersText ms ++ '}' :: r → (restMembersText ms).length < fuel →
      ∃ c', c'.rest = r ∧ taggedMembers key variants fuel depth c false (some tag) acc =
        .ok ((tag, acc.reverse ++ ms), c')
  | _, 0, _, _, _, _, _, _, hl => absurd hl (Nat.not_lt_zero _)
  | [], fuel + 1, c, acc, _, _, _, hc, _ =>
    ⟨c.bump, Cursor.rest_bump hc, by rw [taggedMembers_close hc, List.append_nil]⟩
  | (k, v) :: ms, fuel + 1, c, acc, hk, ih, hd, hc, hl => by
    have hm : (k, v) ∈ (k, v) :: ms := List.mem_cons_self ..
    obtain ⟨hsplit, hfol, hsum⟩ := restMembersText_cons k v ms r
    have hc' := hc.trans hsplit
    have hlen : (memberText (k, v)).length + (restMembersText ms).length + 1 ≤ fuel + 1 := by
      omega
    rw [Value.length_memberText] at hlen
    have hv : v.compact.toList.length ≤ fuel := by omega
    obtain ⟨c₁, hc₁, hstep⟩ := taggedMembers_member hc' (hk _ hm) (ih _ hm) hfol hv (hd _ hm)
    obtain ⟨c₂, hc₂, hrest⟩ := taggedMembers_rest variants depth tag ms fuel c₁ ((k, v) :: acc)
      (fun m hm' => hk m (List.mem_cons_of_mem _ hm'))
      (fun m hm' => ih m (List.mem_cons_of_mem _ hm'))
      (fun m hm' => hd m (List.mem_cons_of_mem _ hm')) hc₁ (by omega)
    refine ⟨c₂, hc₂, ?_⟩
    rw [hstep, hrest]
    simp

/-- **A tagged object written compactly reads back**, tag first: the variant it names and its
other members, with nothing left of the text. -/
theorem tagged_compact {tag : String} {ms : List (String × Value)}
    (ht : tag ∈ variants) (hk : ∀ m ∈ ms, m.1 ≠ key) (hp : ∀ m ∈ ms, m.2.Plain)
    (hd : ∀ m ∈ ms, m.2.depth < nestingLimit) :
    ∃ c, c.rest = [] ∧ ∀ expecting, tagged key variants expecting
      (Value.object ((key, .string tag) :: ms)).compact = .ok ((tag, .members ms), c) := by
  set text := (Value.object ((key, .string tag) :: ms)).compact
  have htext : text.toList = '{' :: (memberText (key, .string tag) ++ (restMembersText ms ++ ['}'])) := by
    simp [text, Value.toList_compact_object, Value.toList_compactMembers_cons]
  have hstart : (Cursor.start text).skipSpace = Cursor.start text :=
    Cursor.skipSpace_of_rest (show (Cursor.start text).rest = _ from htext) (by decide)
  have hlen := Value.length_memberText key (.string tag)
  obtain ⟨c₁, hc₁, htag⟩ := taggedMembers_tag
    (Cursor.rest_bump (show (Cursor.start text).rest = _ from htext)) ht
  obtain ⟨c₂, hc₂, hrest⟩ := taggedMembers_rest variants (nestingLimit - 1) tag ms
    (fuelFor (Cursor.start text) - 1) c₁ [] hk (fun m hm => (hp m hm).readsBack)
    (fun m hm => by have := hd m hm; omega) hc₁ (by
      simp only [fuelFor, Cursor.start, htext, List.length_cons, List.length_append] at hlen ⊢
      omega)
  refine ⟨c₂, hc₂, fun expecting => ?_⟩
  rw [tagged]
  simp only [hstart, Cursor.peek_of_rest (show (Cursor.start text).rest = _ from htext)]
  obtain ⟨f, hf⟩ : ∃ f, fuelFor (Cursor.start text) = f + 1 :=
    ⟨fuelFor (Cursor.start text) - 1, by simp only [fuelFor]; omega⟩
  rw [hf] at hrest ⊢
  simp only [Nat.add_sub_cancel] at hrest
  simp only [htag, hrest, bind, Except.bind, pure, Except.pure, List.reverse_nil, List.nil_append]

end Reader

end JobQueue.Json

namespace JobQueue

/-! ## Cron expressions made again -/

namespace Text

/-- A text without surrounding blanks is its rest after the leading blanks, less the
trailing ones. -/
lemma trimBlank_toList (s : String) :
    (trimBlank s).toList = (s.toList.dropWhile isBlank).rdropWhile isBlank := by
  simp [trimBlank, dropBlank, List.rdropWhile]

/-- **Trimming twice trims once.** -/
lemma trimBlank_trimBlank (s : String) : trimBlank (trimBlank s) = trimBlank s := by
  rw [← String.toList_inj, trimBlank_toList, trimBlank_toList]
  -- What is left after the leading blanks starts with no blank, and so does each prefix of it.
  set rest := s.toList.dropWhile isBlank
  have hhead := List.dropWhile_eq_self_iff.1 (List.dropWhile_idempotent isBlank s.toList)
  have hpre : List.dropWhile isBlank (rest.rdropWhile isBlank) = rest.rdropWhile isBlank := by
    rw [List.dropWhile_eq_self_iff]
    intro hl
    have hpos : 0 < rest.length :=
      Nat.lt_of_lt_of_le hl (List.rdropWhile_prefix isBlank rest).length_le
    rw [List.IsPrefix.getElem (List.rdropWhile_prefix isBlank rest)]
    exact hhead hpos
  rw [hpre, List.rdropWhile_idempotent]

end Text

/-- **A zone found by name carries that name.** -/
lemma Zone.name_of_find? {name : String} {z : Zone} (h : Zone.find? name = some z) :
    z.name = name := by
  have hline : ∀ {line : String}, ZoneTable.parseLine name line = some z → z.name = name := by
    intro line hl
    unfold ZoneTable.parseLine at hl
    split at hl
    · cases hl
      rfl
    · cases hl
  unfold Zone.find? at h
  split_ifs at h
  split at h
  · exact hline h
  · split at h
    · obtain ⟨line, -, hl⟩ := Option.bind_eq_some_iff.1 h
      exact hline hl
    · cases h

namespace CronSpec

/-- **A cron expression as the checked constructor makes it**: from some text and zone
name. -/
def Made (spec : CronSpec) : Prop :=
  ∃ expression name, make expression name = .ok spec

/-- **A cron expression made again from its own text in its own zone is the same**: the text is
trimmed already, and reading it again gives the same pattern. -/
lemma withZone_trimBlank {expression : String} {z : Zone} {spec : CronSpec}
    (h : withZone expression z = .ok spec) : withZone spec.expression z = .ok spec := by
  unfold withZone at h
  obtain ⟨six, hsix, h⟩ := except_bind_eq_ok.1 h
  split at h
  · rename_i p hp
    cases h
    have hsix' : Cron.sixFields (Text.trimBlank expression) = .ok six := by
      rw [← hsix]
      unfold Cron.sixFields
      rw [Text.trimBlank_trimBlank]
    unfold withZone
    rw [hsix']
    simp only [bind, Except.bind, hp, Text.trimBlank_trimBlank]
    rfl
  · cases h

/-- An expression read in a zone is bound to that zone. -/
lemma withZone_zone {expression : String} {z : Zone} {spec : CronSpec}
    (h : withZone expression z = .ok spec) : spec.zone = z := by
  unfold withZone at h
  obtain ⟨six, -, h⟩ := except_bind_eq_ok.1 h
  split at h
  · cases h
    rfl
  · cases h

/-- **A made expression is made again from its text and zone name**, as the stored form keeps
them. -/
lemma make_of_made {spec : CronSpec} (h : spec.Made) :
    make spec.expression spec.zoneName = .ok spec := by
  obtain ⟨expression, name, hm⟩ := h
  -- The zone table is looked up by name only, never evaluated.
  cases hz : Zone.find? name with
  | none =>
    rw [make, hz] at hm
    cases hm
  | some z =>
    rw [make, hz] at hm
    dsimp only at hm
    rw [make, zoneName, withZone_zone hm, Zone.name_of_find? hz, hz]
    exact withZone_trimBlank hm

end CronSpec

/-! ## Field readers -/

namespace ScheduleField

open Json

/-- An instant field holds an instant the clock type can hold. -/
lemma instant_eq_ok {v : Value} {t : Instant} (h : instant v = .ok t) : t.Representable := by
  unfold instant at h
  split at h
  · split at h
    · cases h
      exact Instant.parse_representable ‹_›
    · cases h
  · cases h

/-- The written form of a representable instant is read as it. -/
lemma instant_text {t : Instant} (h : t.Representable) : instant (.string t.text) = .ok t := by
  simp only [instant, Instant.parse_text h]

/-- A stored period is read as itself. -/
lemma period_natural (p : Period) : period (.number (.natural p.secs)) = .ok p := by
  simp only [period, dif_pos (show 0 < p.secs ∧ p.secs < 18446744073709551616 from ⟨p.pos, p.small⟩)]

/-- A cron field holds an expression the checked constructor makes. -/
lemma cronSpec_eq_ok {v : Value} {spec : CronSpec} (h : cronSpec v = .ok spec) : spec.Made := by
  unfold cronSpec at h
  obtain ⟨⟨e, z⟩, -, h⟩ := except_bind_eq_ok.1 h
  dsimp only at h
  split at h
  · cases h
    exact ⟨e, z, ‹_›⟩
  · cases h

/-- The stored form of a made expression is read as it. -/
lemma cronSpec_stored {spec : CronSpec} (h : spec.Made) :
    cronSpec (.object [("expression", .string spec.expression),
      ("timezone", .string spec.zoneName)]) = .ok spec := by
  have hne : ("timezone" == "expression") = false := by decide
  simp [cronSpec, cronParts, collect, require, text, Except.map, bind, Except.bind,
    List.lookup_cons, hne, pure, Except.pure, CronSpec.make_of_made h]

end ScheduleField

/-! ## Numerals in range -/

namespace Numeral

/-- Digits read onto a value in range keep it in range, or fail. -/
lemma scan_bounds {positive : Bool} {lo hi : Int} {cs : List Char} :
    ∀ {acc n : Int}, lo ≤ acc → acc ≤ hi → scan positive lo hi acc cs = .ok n →
      lo ≤ n ∧ n ≤ hi := by
  induction cs with
  | nil =>
    intro acc n hlo hhi h
    cases h
    exact ⟨hlo, hhi⟩
  | cons c rest ih =>
    intro acc n hlo hhi h
    unfold scan at h
    split at h
    · -- The next value is checked against both ends before the rest is read.
      dsimp only at h
      split_ifs at h with hpos hgt hlt hgt hlt
      · exact ih (by omega) (by omega) h
      · exact ih (by omega) (by omega) h
    · cases h

end Numeral

/-- **A numeral read within `lo..hi` lies in `lo..hi`**, when the range holds zero. -/
lemma parseInteger_bounds {text : String} {lo hi n : Int} (h : parseInteger text lo hi = .ok n)
    (hlo : lo ≤ 0) (hhi : 0 ≤ hi) : lo ≤ n ∧ n ≤ hi := by
  unfold parseInteger at h
  split at h
  · cases h
  · cases h
  · cases h
  · exact Numeral.scan_bounds hlo hhi h
  · split_ifs at h
    exact Numeral.scan_bounds hlo hhi h
  · exact Numeral.scan_bounds hlo hhi h

/-! ## Reading schedules -/

namespace Schedule

open Json ScheduleField

/-- **The schedules the stored form holds**: instants the clock type can hold, any period, and
cron expressions as the checked constructor makes them. -/
inductive Readable : Schedule → Prop
  | immediate : Readable .immediate
  | once {moment : Instant} (h : moment.Representable) : Readable (.once moment)
  | interval {start : Instant} {period : Period} (h : start.Representable) :
      Readable (.interval start period)
  | cron {start : Instant} {spec : CronSpec} (h : start.Representable) (hspec : spec.Made) :
      Readable (.cron start spec)

/-- A document whose tag names a variant and whose other members are plain data reads as that
variant's fields. -/
lemma ofJson_object {tag : String} {ms : List (String × Value)} (ht : tag ∈ variantNames)
    (hk : ∀ m ∈ ms, m.1 ≠ "kind") (hp : ∀ m ∈ ms, m.2.Plain)
    (hd : ∀ m ∈ ms, m.2.depth < Reader.nestingLimit) :
    ofJson (Value.object (("kind", .string tag) :: ms)).compact = ofBody tag (.members ms) := by
  obtain ⟨c, hc, htag⟩ := Reader.tagged_compact ht hk hp hd
  unfold ofJson
  rw [htag]
  simp only [bind, Except.bind, Reader.finish, Cursor.skipSpace_of_nil hc, Cursor.peek, hc,
    List.head?_nil]
  cases ofBody tag (.members ms) <;> rfl

/-- **A readable schedule reads back from its stored form** as itself. -/
theorem ofJson_toJson_readable {s : Schedule} (h : s.Readable) : ofJson s.toJson = .ok s := by
  cases h with
  | immediate =>
    rw [toJson, toValue, ofJson_object (by decide) (by simp) (by simp) (by simp)]
    rfl
  | once h =>
    rw [toJson, toValue, ofJson_object (by decide) (by simp) (by simp [Value.Plain.string])
      (by simp [Value.depth, Reader.nestingLimit])]
    simp [ofBody, fieldValues, collect, checkField, require, instant_text h,
      Except.map, bind, Except.bind, pure, Except.pure]
  | @interval start p h =>
    have hp : p.secs ≤ Reader.maxNatural := by
      have := p.small
      unfold Reader.maxNatural
      omega
    rw [toJson, toValue, ofJson_object (by decide) (by simp)
      (by simp [Value.Plain.string, Value.Plain.natural hp])
      (by simp [Value.depth, Reader.nestingLimit])]
    have hne : ("every_secs" == "start") = false := by decide
    simp [ofBody, fieldValues, collect, checkField, require, instant_text h, period_natural,
      List.lookup_cons, hne, Except.map, bind, Except.bind, pure, Except.pure]
  | cron h hspec =>
    rw [toJson, toValue, ofJson_object (by decide) (by simp)
      (by simp [Value.Plain.string, Value.Plain.object])
      (by simp [Value.depth, Value.depthMembers, Reader.nestingLimit])]
    have hne : ("cron" == "start") = false := by decide
    simp [ofBody, fieldValues, collect, checkField, require, instant_text h,
      cronSpec_stored hspec, List.lookup_cons, hne, Except.map, bind, Except.bind, pure, Except.pure]

/-- **What a variant's fields are read as is readable.** -/
lemma ofBody_readable {tag : String} {body : TaggedBody} {s : Schedule}
    (h : ofBody tag body = .ok s) : s.Readable := by
  unfold ofBody at h
  split at h
  · obtain ⟨vs, -, h⟩ := except_bind_eq_ok.1 h
    split at h
    · obtain ⟨t, ht, h⟩ := except_bind_eq_ok.1 h
      cases h
      exact .once (instant_eq_ok ht)
    · cases h
  · obtain ⟨vs, -, h⟩ := except_bind_eq_ok.1 h
    split at h
    · obtain ⟨t, ht, h⟩ := except_bind_eq_ok.1 h
      obtain ⟨p, -, h⟩ := except_bind_eq_ok.1 h
      cases h
      exact .interval (instant_eq_ok ht)
    · cases h
  · obtain ⟨vs, -, h⟩ := except_bind_eq_ok.1 h
    split at h
    · obtain ⟨t, ht, h⟩ := except_bind_eq_ok.1 h
      obtain ⟨spec, hspec, h⟩ := except_bind_eq_ok.1 h
      cases h
      exact .cron (instant_eq_ok ht) (cronSpec_eq_ok hspec)
    · cases h
  · -- Any other variant is the null one, whose fields are ignored.
    split at h
    · split_ifs at h
      cases h
      exact .immediate
    · cases h
      exact .immediate

/-- **The schedules the checked constructors build**, from instants the clock type can hold:
one instant; an interval from a signed 64-bit count of seconds, a double or a text; a cron
expression by zone name, or in a zone of the catalog. -/
inductive Built : Schedule → Prop
  | immediate : Built .immediate
  | once {moment : Instant} (h : moment.Representable) : Built (.once moment)
  | interval {start : Instant} {n : Int} {s : Schedule} (h : start.Representable)
      (hn : wordMin ≤ n ∧ n ≤ wordMax) (hs : interval? start n = .ok s) : Built s
  | intervalOfFloat {start : Instant} {x : Float} {s : Schedule} (h : start.Representable)
      (hs : intervalOfFloat start x = .ok s) : Built s
  | intervalOfText {start : Instant} {text : String} {s : Schedule} (h : start.Representable)
      (hs : intervalOfText start text = .ok s) : Built s
  | cron {start : Instant} {expression zoneName : String} {s : Schedule}
      (h : start.Representable) (hs : cron? start expression zoneName = .ok s) : Built s
  | withZone {start : Instant} {expression : String} {zone : Zone} {spec : CronSpec}
      (h : start.Representable) (hz : Zone.find? zone.name = some zone)
      (hs : CronSpec.withZone expression zone = .ok spec) : Built (.cron start spec)

/-- **Every schedule read from text is readable.** -/
theorem readable_of_ofJson {text : String} {s : Schedule} (h : ofJson text = .ok s) :
    s.Readable := by
  unfold ofJson at h
  obtain ⟨⟨⟨tag, body⟩, c⟩, -, h⟩ := except_bind_eq_ok.1 h
  obtain ⟨s', hs', h⟩ := except_bind_eq_ok.1 h
  obtain ⟨-, -, h⟩ := except_bind_eq_ok.1 h
  cases h
  exact ofBody_readable hs'

/-- A checked interval has the count it was given as its period. -/
lemma interval?_eq_ok {start : Instant} {n : Int} {s : Schedule} (h : interval? start n = .ok s) :
    ∃ p : Period, s = .interval start p ∧ (p.secs : Int) = n := by
  unfold interval? at h
  split at h
  · rename_i hn
    cases h
    exact ⟨_, rfl, Int.toNat_of_nonneg (by omega)⟩
  · cases h

/-- A double is brought into the signed 64-bit range before it is checked as a count. -/
lemma intervalOfBits_eq_ok {start : Instant} {bits : UInt64} {s : Schedule}
    (h : intervalOfBits start bits = .ok s) :
    ∃ n, (wordMin ≤ n ∧ n ≤ wordMax) ∧ interval? start n = .ok s := by
  unfold intervalOfBits at h
  split at h
  · split_ifs at h
    exact ⟨_, ⟨le_max_left _ _, max_le (by decide) (min_le_left _ _)⟩, h⟩
  · cases h

lemma intervalOfFloat_eq_ok {start : Instant} {x : Float} {s : Schedule}
    (h : intervalOfFloat start x = .ok s) :
    ∃ n, (wordMin ≤ n ∧ n ≤ wordMax) ∧ interval? start n = .ok s :=
  intervalOfBits_eq_ok h

/-- A text is read as a signed 64-bit count, or as a double brought into that range. -/
lemma intervalOfText_eq_ok {start : Instant} {text : String} {s : Schedule}
    (h : intervalOfText start text = .ok s) :
    ∃ n, (wordMin ≤ n ∧ n ≤ wordMax) ∧ interval? start n = .ok s := by
  unfold intervalOfText at h
  dsimp only at h
  split at h
  · rename_i n hn
    exact ⟨n, parseInteger_bounds hn (by decide) (by decide), h⟩
  · split at h
    · exact intervalOfBits_eq_ok h
    · cases h

/-- A checked cron schedule holds a made expression. -/
lemma cron?_eq_ok {start : Instant} {expression zoneName : String} {s : Schedule}
    (h : cron? start expression zoneName = .ok s) :
    ∃ spec : CronSpec, s = .cron start spec ∧ spec.Made := by
  unfold cron? at h
  split at h
  · cases h
    exact ⟨_, rfl, _, _, ‹_›⟩
  · cases h

/-- An expression read in a zone of the catalog is made from that zone's name. -/
lemma made_of_withZone {expression : String} {zone : Zone} {spec : CronSpec}
    (hz : Zone.find? zone.name = some zone) (h : CronSpec.withZone expression zone = .ok spec) :
    spec.Made :=
  ⟨expression, zone.name, by rw [CronSpec.make, hz]; exact h⟩

/-- An interval counted in a signed 64-bit word is readable, with a period below `2^63`. -/
lemma readable_of_interval? {start : Instant} {n : Int} {s : Schedule}
    (h : start.Representable) (hn : n ≤ wordMax) (hs : interval? start n = .ok s) :
    s.Readable ∧ ∀ start' p, s = .interval start' p → p.secs ≤ 9223372036854775807 := by
  obtain ⟨p, rfl, hp⟩ := interval?_eq_ok hs
  refine ⟨.interval h, fun _ q he => ?_⟩
  cases he
  unfold wordMax at hn
  omega

/-- **The constructors build exactly the readable schedules whose period fits a signed 64-bit
word.** -/
theorem built_iff {s : Schedule} :
    s.Built ↔ s.Readable ∧ ∀ start p, s = .interval start p → p.secs ≤ 9223372036854775807 := by
  constructor
  · intro hb
    cases hb with
    | immediate => exact ⟨.immediate, fun _ _ he => by cases he⟩
    | once h => exact ⟨.once h, fun _ _ he => by cases he⟩
    | interval h hn hs => exact readable_of_interval? h hn.2 hs
    | intervalOfFloat h hs =>
      obtain ⟨n, hn, hs⟩ := intervalOfFloat_eq_ok hs
      exact readable_of_interval? h hn.2 hs
    | intervalOfText h hs =>
      obtain ⟨n, hn, hs⟩ := intervalOfText_eq_ok hs
      exact readable_of_interval? h hn.2 hs
    | cron h hs =>
      obtain ⟨spec, rfl, hspec⟩ := cron?_eq_ok hs
      exact ⟨.cron h hspec, fun _ _ he => by cases he⟩
    | withZone h hz hs => exact ⟨.cron h (made_of_withZone hz hs), fun _ _ he => by cases he⟩
  · rintro ⟨hr, hp⟩
    cases hr with
    | immediate => exact .immediate
    | once h => exact .once h
    | @interval start p h =>
      have hle := hp start p rfl
      have hn : wordMin ≤ (p.secs : Int) ∧ (p.secs : Int) ≤ wordMax :=
        ⟨by unfold wordMin; omega, by unfold wordMax; omega⟩
      refine .interval h hn ?_
      unfold interval?
      rw [dif_pos ⟨by have := p.pos; omega, by have := p.small; omega⟩]
      rfl
    | @cron start spec h hspec =>
      obtain ⟨expression, name, hm⟩ := hspec
      exact .cron h (show cron? start expression name = .ok (.cron start spec) by rw [cron?, hm])

/-- **A readable schedule is built by a constructor, unless it is an interval whose period
does not fit a signed 64-bit word.** -/
lemma Readable.built_or_wide {s : Schedule} (h : s.Readable) :
    s.Built ∨ ∃ start p, s = .interval start p ∧ start.Representable ∧
      9223372036854775807 < p.secs := by
  by_cases hw : ∃ start p, s = .interval start p ∧ 9223372036854775807 < p.secs
  · obtain ⟨start, p, rfl, hp⟩ := hw
    cases h with
    | interval hs => exact .inr ⟨start, p, rfl, hs, hp⟩
  · refine .inl (built_iff.2 ⟨h, fun start p he => ?_⟩)
    by_contra hp
    exact hw ⟨start, p, he, by omega⟩

/-- **The stored form of schedules is faithful up to wide periods**: every schedule a
constructor builds reads back from its stored text as itself, and every text that reads as a
schedule gives one that a constructor builds, or an interval whose period is too wide for a
signed 64-bit word. -/
theorem stored_form_faithful (s : Schedule) (text : String) :
    (s.Built → ofJson s.toJson = .ok s) ∧
      (ofJson text = .ok s → s.Built ∨
        ∃ start p, s = .interval start p ∧ start.Representable ∧ 9223372036854775807 < p.secs) :=
  ⟨fun h => ofJson_toJson_readable (built_iff.1 h).1,
    fun h => (readable_of_ofJson h).built_or_wide⟩

/-- An hourly schedule from the start of 2024 reads back as itself. -/
theorem hourly_schedule_reads_back :
    (Schedule.interval (.ofSeconds 1704067200) ⟨3600, by decide, by decide⟩).Built ∧
      ofJson (Schedule.interval (.ofSeconds 1704067200) ⟨3600, by decide, by decide⟩).toJson =
        .ok (Schedule.interval (.ofSeconds 1704067200) ⟨3600, by decide, by decide⟩) := by
  have hb : (Schedule.interval (.ofSeconds 1704067200) ⟨3600, by decide, by decide⟩).Built :=
    .interval (by decide) (show wordMin ≤ (3600 : Int) ∧ (3600 : Int) ≤ wordMax by decide) rfl
  exact ⟨hb, (stored_form_faithful _ "").1 hb⟩

/-- **A period of `2^63` seconds is read from text**, though no constructor builds a schedule
with it. -/
theorem wide_period_loads :
    ∃ start p, ofJson "\x7b\"kind\":\"interval\",\"start\":\"2024-01-01T00:00:00Z\",\"every_secs\":9223372036854775808\x7d" =
      .ok (.interval start p) ∧ p.secs = 9223372036854775808 ∧ ¬ (Schedule.interval start p).Built := by
  -- The text is the stored form of such an interval, and readable schedules read back.
  have ht : "\x7b\"kind\":\"interval\",\"start\":\"2024-01-01T00:00:00Z\",\"every_secs\":9223372036854775808\x7d" =
      (Schedule.interval (.ofSeconds 1704067200) ⟨9223372036854775808, by decide, by decide⟩).toJson := by
    decide +kernel
  refine ⟨.ofSeconds 1704067200, ⟨9223372036854775808, by decide, by decide⟩, ?_, rfl, fun hb => ?_⟩
  · rw [ht]
    exact ofJson_toJson_readable (.interval (by decide))
  · have hle := (built_iff.1 hb).2 _ _ rfl
    dsimp only at hle
    omega

end Schedule

end JobQueue
