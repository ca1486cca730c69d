import CommandPlan.Proofs.FragmentLoads
import CommandPlan.Proofs.TextEncoding

/-! Octets that need not be text. Decoding cuts them into the octets of characters and
maximal subparts of what is ill-formed, and there is one way only to cut. So what is
decoded without a maximal subpart, and only that, is encoded back to the octets; with
one, the octets cannot be told from the text any more. -/
namespace CommandPlan.LossyDecoding
open Utf8 TextEncoding

/-- The octets are a start of what some character is encoded to. -/
def Starts (octets : List UInt8) : Prop :=
  ∃ c, octets <+: encodeChar c

/-- Where no character stands, the longest start of one that does; a single octet if there
is none. -/
structure MaximalSubpart (subpart rest : List UInt8) : Prop where
  stray : ∀ c, ¬ encodeChar c <+: subpart ++ rest
  some_ : subpart ≠ []
  start : Starts subpart ∨ subpart.length = 1
  longest : ∀ start, start <+: subpart ++ rest → Starts start → start.length ≤ subpart.length

/-- The text of some octets: each character that stands there, and one replacement for
each maximal subpart between them. -/
inductive LossyText : List UInt8 → List Char → Prop where
  | nil : LossyText [] []
  | char {rest : List UInt8} {text : List Char} (c : Char) (later : LossyText rest text) :
      LossyText (encodeChar c ++ rest) (c :: text)
  | replaced {subpart rest : List UInt8} {text : List Char} (maximal : MaximalSubpart subpart rest)
      (later : LossyText rest text) : LossyText (subpart ++ rest) (replacement :: text)

variable {first second third fourth octet : UInt8} {code : Nat} {octets subpart rest : List UInt8} {text : List Char}

/-! ## Characters of well-formed sequences -/

theorem to_nat_of_code (scalar : code < 0xD800 ∨ 0xDFFF < code ∧ code < 0x110000) : (Char.ofNat code).toNat = code := by
  rw [Char.ofNat, dif_pos (show code.isValidChar from scalar)]
  rfl

theorem octet_eq_iff (small : code < 0x100) : UInt8.ofNat code = octet ↔ code = octet.toNat := by
  rw [← UInt8.toNat_inj, to_nat_of_octet small]

theorem encode_one (ascii : first.toNat < 0x80) : encodeChar (Char.ofNat first.toNat) = [first] := by
  have number := to_nat_of_code (show first.toNat < 0xD800 ∨ _ by omega)
  unfold encodeChar
  rw [number]
  simp [ascii]

theorem encode_two (lead : 0xC2 ≤ first.toNat ∧ first.toNat ≤ 0xDF) (tail : isContinuation second = true) :
    encodeChar (scalar2 first second) = [first, second] := by
  rw [is_continuation_iff] at tail
  unfold scalar2 payload
  have number := to_nat_of_code (show first.toNat % 0x20 * 0x40 + second.toNat % 0x40 < 0xD800 ∨ _ by omega)
  unfold encodeChar
  rw [number]
  dsimp only
  rw [if_neg (by omega), if_pos (by omega)]
  simp only [List.cons.injEq, and_true]
  rw [octet_eq_iff (by omega), octet_eq_iff (by omega)]
  omega

theorem encode_three (lead : 0xE0 ≤ first.toNat ∧ first.toNat ≤ 0xEF) (next : isSecond first second = true)
    (tail : isContinuation third = true) : encodeChar (scalar3 first second third) = [first, second, third] := by
  rw [is_continuation_iff] at tail
  rw [is_second_iff] at next
  unfold scalar3 payload
  have number := to_nat_of_code (show first.toNat % 0x10 * 0x1000 + second.toNat % 0x40 * 0x40 +
    third.toNat % 0x40 < 0xD800 ∨ _ by omega)
  unfold encodeChar
  rw [number]
  dsimp only
  rw [if_neg (by omega), if_neg (by omega), if_pos (by omega)]
  simp only [List.cons.injEq, and_true]
  rw [octet_eq_iff (by omega), octet_eq_iff (by omega), octet_eq_iff (by omega)]
  omega

theorem encode_four (lead : 0xF0 ≤ first.toNat ∧ first.toNat ≤ 0xF4) (next : isSecond first second = true)
    (tail : isContinuation third = true) (last : isContinuation fourth = true) :
    encodeChar (scalar4 first second third fourth) = [first, second, third, fourth] := by
  rw [is_continuation_iff] at tail last
  rw [is_second_iff] at next
  unfold scalar4 payload
  have number := to_nat_of_code (show first.toNat % 0x8 * 0x40000 + second.toNat % 0x40 * 0x1000 +
    third.toNat % 0x40 * 0x40 + fourth.toNat % 0x40 < 0xD800 ∨ _ by omega)
  unfold encodeChar
  rw [number]
  dsimp only
  rw [if_neg (by omega), if_neg (by omega), if_neg (by omega)]
  simp only [List.cons.injEq, and_true]
  rw [octet_eq_iff (by omega), octet_eq_iff (by omega), octet_eq_iff (by omega), octet_eq_iff (by omega)]
  omega

/-! ## Subparts of ill-formed sequences -/

theorem Starts.shorter (starts : Starts (subpart ++ rest)) : Starts subpart := by
  obtain ⟨c, within⟩ := starts
  exact ⟨c, (List.prefix_append subpart rest).trans within⟩

/-- No octet that is good for going on stands next. -/
def Stuck (good : UInt8 → Bool) (rest : List UInt8) : Prop :=
  ∀ next behind, rest = next :: behind → good next = false

theorem malformed_lead (stray : 0x80 ≤ first.toNat ∧ (first.toNat < 0xC2 ∨ 0xF4 < first.toNat)) :
    segments (first :: rest) = .malformed :: segments rest := by
  rw [segments.eq_def]
  simp only [UInt8.lt_iff_toNat_lt, UInt8.le_iff_toNat_le, UInt8.reduceToNat]
  rw [if_neg (by omega), if_neg (by omega), if_neg (by omega), if_neg (by omega)]

theorem malformed_two (lead : 0xC2 ≤ first.toNat ∧ first.toNat ≤ 0xDF) (stuck : Stuck isContinuation rest) :
    segments (first :: rest) = .malformed :: segments rest := by
  rw [segments.eq_def]
  simp only [UInt8.lt_iff_toNat_lt, UInt8.le_iff_toNat_le, UInt8.reduceToNat]
  rw [if_neg (by omega), if_pos lead]
  cases rest with
  | nil => rfl
  | cons next behind => simp [stuck next behind rfl]

theorem malformed_second (lead : 0xE0 ≤ first.toNat ∧ first.toNat ≤ 0xF4) (stuck : Stuck (isSecond first) rest) :
    segments (first :: rest) = .malformed :: segments rest := by
  rw [segments.eq_def]
  simp only [UInt8.lt_iff_toNat_lt, UInt8.le_iff_toNat_le, UInt8.reduceToNat]
  rw [if_neg (by omega), if_neg (by omega)]
  by_cases wide : first.toNat ≤ 0xEF
  · rw [if_pos (by omega)]
    cases rest with
    | nil => rfl
    | cons next behind => simp [stuck next behind rfl]
  · rw [if_neg (by omega), if_pos (by omega)]
    cases rest with
    | nil => rfl
    | cons next behind => simp [stuck next behind rfl]

theorem malformed_third (lead : 0xE0 ≤ first.toNat ∧ first.toNat ≤ 0xF4) (next : isSecond first second = true)
    (stuck : Stuck isContinuation rest) : segments (first :: second :: rest) = .malformed :: segments rest := by
  rw [segments.eq_def]
  simp only [UInt8.lt_iff_toNat_lt, UInt8.le_iff_toNat_le, UInt8.reduceToNat]
  rw [if_neg (by omega), if_neg (by omega)]
  by_cases wide : first.toNat ≤ 0xEF
  · rw [if_pos (by omega), if_pos next]
    cases rest with
    | nil => rfl
    | cons third behind => simp [stuck third behind rfl]
  · rw [if_neg (by omega), if_pos (by omega), if_pos next]
    cases rest with
    | nil => rfl
    | cons third behind => simp [stuck third behind rfl]

theorem malformed_fourth (lead : 0xF0 ≤ first.toNat ∧ first.toNat ≤ 0xF4) (next : isSecond first second = true)
    (tail : isContinuation third = true) (stuck : Stuck isContinuation rest) :
    segments (first :: second :: third :: rest) = .malformed :: segments rest := by
  rw [segments.eq_def]
  simp only [UInt8.lt_iff_toNat_lt, UInt8.le_iff_toNat_le, UInt8.reduceToNat]
  rw [if_neg (by omega), if_neg (by omega), if_neg (by omega), if_pos lead, if_pos next, if_pos tail]
  cases rest with
  | nil => rfl
  | cons fourth behind => simp [stuck fourth behind rfl]

/-! ## Starts of well-formed sequences -/

theorem continues_at : isContinuation 0x80 = true := by
  decide

theorem starts_two (lead : 0xC2 ≤ first.toNat ∧ first.toNat ≤ 0xDF) : Starts [first] :=
  ⟨_, [0x80], (encode_two lead continues_at).symm⟩

theorem starts_three (lead : 0xF0 ≤ first.toNat ∧ first.toNat ≤ 0xF4) (next : isSecond first second = true)
    (tail : isContinuation third = true) : Starts [first, second, third] :=
  ⟨_, [0x80], (encode_four lead next tail continues_at).symm⟩

theorem starts_second (lead : 0xE0 ≤ first.toNat ∧ first.toNat ≤ 0xF4) (next : isSecond first second = true) :
    Starts [first, second] := by
  by_cases wide : first.toNat ≤ 0xEF
  · exact ⟨_, [0x80], (encode_three ⟨lead.1, wide⟩ next continues_at).symm⟩
  · exact Starts.shorter (starts_three (by omega) next continues_at)

theorem exists_second (first : UInt8) : ∃ second, isSecond first second = true := by
  by_cases overlong : first.toNat = 0xE0 ∨ first.toNat = 0xF0
  · exact ⟨0xA0, is_second_iff.mpr (by simp only [UInt8.reduceToNat]; omega)⟩
  · exact ⟨0x80, is_second_iff.mpr (by simp only [UInt8.reduceToNat]; omega)⟩

theorem starts_lead (lead : 0xE0 ≤ first.toNat ∧ first.toNat ≤ 0xF4) : Starts [first] := by
  obtain ⟨second, next⟩ := exists_second first
  exact Starts.shorter (starts_second lead next)

/-! ## Cuts -/

/-- Octets that are cut off as malformed, whatever octet follows that is no good, are a
maximal subpart. -/
theorem maximal_of_stuck {good : UInt8 → Bool} (some_ : subpart ≠ []) (start : Starts subpart ∨ subpart.length = 1)
    (cut : ∀ behind, Stuck good behind → segments (subpart ++ behind) = .malformed :: segments behind)
    (stuck : Stuck good rest) : MaximalSubpart subpart rest := by
  have stray : ∀ behind, Stuck good behind → ∀ c, ¬ encodeChar c <+: subpart ++ behind := by
    rintro behind stuck c ⟨more, encoded⟩
    have wellFormed := segments_encode_char c more
    rw [encoded, cut behind stuck] at wellFormed
    cases wellFormed
  refine ⟨stray rest stuck, some_, start, fun longer within starts => ?_⟩
  refine Nat.le_of_not_lt fun less => ?_
  -- A longer start goes on with the next octet, so it is cut off there whatever follows.
  obtain ⟨behind, rfl⟩ := List.prefix_of_prefix_length_le (List.prefix_append subpart rest) within (Nat.le_of_lt less)
  rw [List.prefix_append_right_inj] at within
  obtain ⟨next, behind, rfl⟩ := List.exists_cons_of_length_pos (by simpa using less)
  obtain ⟨c, more, encoded⟩ := starts
  obtain ⟨after, rfl⟩ := within
  have stuckHere : Stuck good (next :: behind ++ more) := by
    rintro other later same
    exact stuck other (behind ++ after) (by cases same; rfl)
  exact stray _ stuckHere c (by rw [← encoded]; simp)

/-- What stands next, and what is left behind it. -/
inductive Cut : List UInt8 → Segment → List UInt8 → Prop where
  | scalar (c : Char) (rest : List UInt8) : Cut (encodeChar c ++ rest) (.scalar c) rest
  | malformed {subpart rest : List UInt8} (maximal : MaximalSubpart subpart rest) :
      Cut (subpart ++ rest) .malformed rest

theorem stuck_or_goes_on (good : UInt8 → Bool) (rest : List UInt8) :
    Stuck good rest ∨ ∃ next behind, rest = next :: behind ∧ good next = true := by
  cases rest with
  | nil => exact .inl fun _ _ same => by cases same
  | cons next behind =>
    cases goesOn : good next with
    | true => exact .inr ⟨next, behind, rfl, goesOn⟩
    | false => exact .inl fun _ _ same => by cases same; exact goesOn

theorem cut_one (ascii : first.toNat < 0x80) : Cut (first :: rest) (.scalar (Char.ofNat first.toNat)) rest := by
  have cut := Cut.scalar (Char.ofNat first.toNat) rest
  rwa [encode_one ascii] at cut

/-- The segments of some octets are what is cut off them. -/
theorem segments_cut (first : UInt8) (rest : List UInt8) :
    ∃ segment behind, Cut (first :: rest) segment behind ∧ segments (first :: rest) = segment :: segments behind := by
  by_cases ascii : first.toNat < 0x80
  · exact ⟨_, rest, cut_one ascii, segments_one ascii⟩
  by_cases stray : first.toNat < 0xC2 ∨ 0xF4 < first.toNat
  · have cut : ∀ behind, Stuck (fun _ => false) behind → segments ([first] ++ behind) = .malformed :: segments behind :=
      fun behind _ => malformed_lead (by omega)
    have maximal : MaximalSubpart [first] rest := maximal_of_stuck (by simp) (.inr rfl) cut fun _ _ _ => rfl
    exact ⟨_, rest, .malformed maximal, malformed_lead (by omega)⟩
  by_cases short : first.toNat ≤ 0xDF
  · have lead : 0xC2 ≤ first.toNat ∧ first.toNat ≤ 0xDF := by omega
    rcases stuck_or_goes_on isContinuation rest with stuck | ⟨second, behind, rfl, tail⟩
    · have maximal := maximal_of_stuck (by simp) (.inl (starts_two lead)) (fun _ => malformed_two lead) stuck
      exact ⟨_, rest, .malformed maximal, malformed_two lead stuck⟩
    · have cut := Cut.scalar (scalar2 first second) behind
      rw [encode_two lead tail] at cut
      exact ⟨_, behind, cut, segments_two lead tail⟩
  have lead : 0xE0 ≤ first.toNat ∧ first.toNat ≤ 0xF4 := by omega
  rcases stuck_or_goes_on (isSecond first) rest with stuck | ⟨second, rest, rfl, next⟩
  · have maximal := maximal_of_stuck (by simp) (.inl (starts_lead lead)) (fun _ => malformed_second lead) stuck
    exact ⟨_, rest, .malformed maximal, malformed_second lead stuck⟩
  rcases stuck_or_goes_on isContinuation rest with stuck | ⟨third, rest, rfl, tail⟩
  · have maximal := maximal_of_stuck (by simp) (.inl (starts_second lead next)) (fun _ => malformed_third lead next) stuck
    exact ⟨_, rest, .malformed maximal, malformed_third lead next stuck⟩
  by_cases wide : first.toNat ≤ 0xEF
  · have cut := Cut.scalar (scalar3 first second third) rest
    rw [encode_three ⟨lead.1, wide⟩ next tail] at cut
    exact ⟨_, rest, cut, segments_three ⟨lead.1, wide⟩ next tail⟩
  have lead : 0xF0 ≤ first.toNat ∧ first.toNat ≤ 0xF4 := by omega
  rcases stuck_or_goes_on isContinuation rest with stuck | ⟨fourth, rest, rfl, last⟩
  · have maximal := maximal_of_stuck (by simp) (.inl (starts_three lead next tail))
      (fun _ => malformed_fourth lead next tail) stuck
    exact ⟨_, rest, .malformed maximal, malformed_fourth lead next tail stuck⟩
  · have cut := Cut.scalar (scalar4 first second third fourth) rest
    rw [encode_four lead next tail last] at cut
    exact ⟨_, rest, cut, segments_four lead next tail last⟩

/-! ## Decoded texts -/

theorem encode_char_ne_nil (c : Char) : encodeChar c ≠ [] := by
  intro none
  have wellFormed := segments_encode_char c []
  rw [none] at wellFormed
  cases wellFormed

theorem Cut.shorter {segment : Segment} (cut : Cut octets segment rest) : rest.length < octets.length := by
  cases cut with
  | scalar c =>
    have some_ := List.length_pos_iff.mpr (encode_char_ne_nil c)
    rw [List.length_append]
    omega
  | @malformed subpart _ maximal =>
    have some_ := List.length_pos_iff.mpr maximal.some_
    rw [List.length_append]
    omega

theorem Cut.lossy {segment : Segment} (cut : Cut octets segment rest) (later : LossyText rest text) :
    LossyText octets (segment.charOrReplacement :: text) := by
  cases cut with
  | scalar c => exact .char c later
  | malformed maximal => exact .replaced maximal later

theorem lossy_text_decoded : ∀ octets, LossyText octets (decodeLossy octets)
  | [] => .nil
  | first :: rest => by
    obtain ⟨segment, behind, cut, cutOff⟩ := segments_cut first rest
    have shorter := cut.shorter
    have later := lossy_text_decoded behind
    rw [decodeLossy, cutOff, List.map_cons]
    exact cut.lossy later
termination_by octets => octets.length
decreasing_by exact shorter

theorem MaximalSubpart.length_le {other more : List UInt8} (maximal : MaximalSubpart subpart rest)
    (otherMaximal : MaximalSubpart other more) (same : subpart ++ rest = other ++ more) :
    subpart.length ≤ other.length := by
  rcases maximal.start with starts | single
  · exact otherMaximal.longest subpart ⟨rest, same⟩ starts
  · rw [single]
    exact List.length_pos_iff.mpr otherMaximal.some_

/-- A maximal subpart is one segment. -/
theorem segments_subpart (maximal : MaximalSubpart subpart rest) :
    segments (subpart ++ rest) = .malformed :: segments rest := by
  obtain ⟨first, tail, whole⟩ := List.exists_cons_of_ne_nil (List.append_ne_nil_of_left_ne_nil maximal.some_ rest)
  obtain ⟨segment, behind, cut, cutOff⟩ := segments_cut first tail
  rw [← whole] at cut cutOff
  generalize same : subpart ++ rest = octets at cut
  cases cut with
  | scalar c => exact absurd ⟨behind, same.symm⟩ (maximal.stray c)
  | @malformed other _ otherMaximal =>
    have length := Nat.le_antisymm (maximal.length_le otherMaximal same) (otherMaximal.length_le maximal same.symm)
    obtain ⟨-, left⟩ := List.append_inj same length
    rw [← same, cutOff, left]

/-- Octets have one lossy text. -/
theorem lossy_text_iff : LossyText octets text ↔ text = decodeLossy octets := by
  constructor
  · intro lossy
    induction lossy with
    | nil => rfl
    | char c later ih => rw [decodeLossy, segments_encode_char, List.map_cons, ih]; rfl
    | replaced maximal later ih => rw [decodeLossy, segments_subpart maximal, List.map_cons, ih]; rfl
  · rintro rfl
    exact lossy_text_decoded octets

theorem encode_of_decode : ∀ {octets : List UInt8} {text : List Char}, decode? octets = some text →
    encode text = octets
  | [], text, decoded => by
    obtain rfl : [] = text := Option.some.inj decoded
    rfl
  | first :: rest, text, decoded => by
    obtain ⟨segment, behind, cut, cutOff⟩ := segments_cut first rest
    have shorter := cut.shorter
    rw [decode?, cutOff, List.mapM_cons] at decoded
    generalize whole : first :: rest = octets at cut
    cases cut with
    | scalar c =>
      obtain ⟨later, decodedLater, rfl⟩ : ∃ later, decode? behind = some later ∧ c :: later = text := by
        simpa [Segment.char?, decode?, Option.bind_eq_some_iff] using decoded
      rw [encode, List.flatMap_cons, ← encode, encode_of_decode decodedLater]
    | malformed maximal => cases decoded
termination_by octets => octets.length
decreasing_by exact shorter

/-- Octets are decoded to a text if and only if they are its encoding. -/
theorem decode_eq_some_iff : decode? octets = some text ↔ encode text = octets := by
  refine ⟨encode_of_decode, ?_⟩
  rintro rfl
  exact decode_encode text

theorem lossy_of_encode (text : List Char) : LossyText (encode text) text := by
  induction text with
  | nil => exact .nil
  | cons c text ih => exact .char c ih

/-! ## Fragments -/

variable {files : FileSystem} {directory : Path} {file : String}

/-- A fragment that can be read is loaded, whatever its octets are, with the one text that
they have: the octets of its characters, in order, and a replacement for each maximal
subpart between them. Its text is encoded back to the octets if and only if there is no
warning, and there is one warning at most. Behind the comment with the path the
content stands unchanged. -/
theorem readable_fragment_loads (read : files.read (directory.join ⟨file⟩) = .ok octets) :
    ∃ content, (Fragment.load files directory file).value = .loaded (directory.join ⟨file⟩) content ∧
      (∀ text, LossyText octets text ↔ text = content.toList) ∧
      (encode content.toList = octets ↔
        ∀ record ∈ (Fragment.load files directory file).log, record.level ≠ .warn) ∧
      ((∃ record ∈ (Fragment.load files directory file).log, record.level = .warn) →
        ∃ warning, (Fragment.load files directory file).log = [warning]) ∧
      (Fragment.loadText files directory file).value =
        "# :" ++ (directory.join ⟨file⟩).text ++ "\n" ++ content := by
  have shown : ∀ content log, Fragment.load files directory file = ⟨.loaded (directory.join ⟨file⟩) content, log⟩ →
      (Fragment.loadText files directory file).value = "# :" ++ (directory.join ⟨file⟩).text ++ "\n" ++ content := by
    intro content log loaded
    delta Fragment.loadText
    rw [loaded]
    rfl
  cases decoded : decode? octets with
  | some text =>
    have loaded := FragmentLoads.load_decoded read decoded
    have encoded := decode_eq_some_iff.mp decoded
    have only : ∀ other, LossyText octets other ↔ other = text := by
      intro other
      have whole : LossyText octets text := encoded ▸ lossy_of_encode text
      rw [lossy_text_iff, ← lossy_text_iff.mp whole]
    refine ⟨String.ofList text, by rw [loaded], ?_, ?_, ?_, shown _ _ loaded⟩
    · rwa [String.toList_ofList]
    · rw [String.toList_ofList, loaded]
      simpa using encoded
    · rw [loaded]
      simp
  | none =>
    obtain ⟨warning, level, loaded⟩ := FragmentLoads.load_undecoded read decoded
    have lost : encode (decodeLossy octets) ≠ octets := by
      intro encoded
      rw [decode_eq_some_iff.mpr encoded] at decoded
      cases decoded
    refine ⟨String.ofList (decodeLossy octets), by rw [loaded], ?_, ?_, ?_, shown _ _ loaded⟩
    · intro text
      rw [String.toList_ofList, lossy_text_iff]
    · rw [String.toList_ofList, loaded]
      simp [lost, level]
    · rw [loaded]
      exact fun _ => ⟨warning, rfl⟩

/-- Three octets of a sequence of four, and a replacement character of the file's own. -/
def cutShort : List UInt8 := [0x63, 0xF0, 0x9F, 0x98, 0x0A, 0xEF, 0xBF, 0xBD]

def cutShortFiles : FileSystem where
  entries := [(["src"], .directory), (["src", "app_command.sh"], .file cutShort)]
  unique := by decide

theorem cut_short_fragment_loads :
    cutShortFiles.read ((⟨"src"⟩ : Path).join ⟨"app_command.sh"⟩) = .ok cutShort ∧
      ∃ content, (Fragment.load cutShortFiles ⟨"src"⟩ "app_command.sh").value =
          .loaded ((⟨"src"⟩ : Path).join ⟨"app_command.sh"⟩) content ∧
        content.toList = ['c', replacement, '\n', replacement] ∧ encode content.toList ≠ cutShort ∧
        ∃ warning, (Fragment.load cutShortFiles ⟨"src"⟩ "app_command.sh").log = [warning] := by
  have read : cutShortFiles.read ((⟨"src"⟩ : Path).join ⟨"app_command.sh"⟩) = .ok cutShort := by
    rw [← RunEffects.to_option_eq_some_iff]
    decide +kernel
  obtain ⟨content, loaded, only, warned, single, -⟩ := readable_fragment_loads read
  have text : content.toList = ['c', replacement, '\n', replacement] := by
    rw [← (only (decodeLossy cutShort)).mp (lossy_text_decoded cutShort)]
    decide +kernel
  have lost : encode content.toList ≠ cutShort := by
    rw [text]
    decide +kernel
  refine ⟨read, content, loaded, text, lost, single ?_⟩
  simpa using mt warned.mpr lost

end CommandPlan.LossyDecoding
