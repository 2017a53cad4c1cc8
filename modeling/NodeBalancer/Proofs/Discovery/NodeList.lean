import NodeBalancer.Discovery.NodeList
import NodeBalancer.Proofs.Json.Values
import NodeBalancer.Proofs.Text.FormDecoding

/-!
# Node lists that are read

A body that is an array within the limits is read entry by entry, in whatever way it is written: the
strings that name an endpoint are listed in their order, and what else there is among them changes
nothing.  A body that is something else lists nothing as a whole.

* `NodeList.ofEntries_eq`: the endpoints that the hosts among the entries name.
* `NodeList.ofBody?_reads_entries`: what becomes of every body that is text of a value.
-/

namespace NodeBalancer

namespace NodeList

theorem ofBody?_toUTF8 (scheme : Scheme) (port : Nat) (cs : List Char) :
    ofBody? scheme port (String.ofList cs).toUTF8 = ofText? scheme port cs := by
  rw [ofBody?, String.toUTF8_eq_toByteArray, Text.fromUTF8?_toByteArray]
  simp only [String.toList_ofList]

/-- The entries that are strings are the hosts; those that are not accepted are left out. -/
theorem ofEntries_eq (scheme : Scheme) (port : Nat) (entries : List Json) :
    ofEntries scheme port entries =
      (entries.filterMap Json.text?).filterMap fun host =>
        (Endpoint.ofHost scheme host port).toOption := by
  rw [List.filterMap_filterMap]
  refine List.filterMap_congr fun entry _ => ?_
  rw [endpointOf?]
  cases entry.text? <;> rfl

/-- No host is accepted with port 0. -/
theorem ofEntries_zero (scheme : Scheme) (entries : List Json) :
    ofEntries scheme 0 entries = [] := by
  rw [ofEntries_eq, List.filterMap_eq_nil_iff]
  intro host _
  rw [Endpoint.ofHost]
  cases Endpoint.hostAddress? host <;> rfl

theorem ofText?_of_array {cs : List Char} {entries : List Json}
    (h : Json.parse? cs = some (.array entries)) (scheme : Scheme) (port : Nat) :
    ofText? scheme port cs = some (ofEntries scheme port entries) := by
  rw [ofText?, h]

theorem ofText?_eq_none {cs : List Char} (h : ∀ entries, Json.parse? cs ≠ some (.array entries))
    (scheme : Scheme) (port : Nat) : ofText? scheme port cs = none := by
  rw [ofText?]
  split
  · rename_i entries heq
    exact absurd heq (h entries)
  · rfl

/-- **A body is read entry by entry.**  However an array within the limits is written, exactly the
endpoints that its strings name are listed, in their order; the text of another value, within the
limits or not, lists nothing, nor does any text that does not begin the way an array does. -/
theorem ofBody?_reads_entries (scheme : Scheme) (port : Nat) :
    (∀ cs entries, Json.Document cs (.array entries) → Json.Within 127 (.array entries) →
      ofBody? scheme port (String.ofList cs).toUTF8 =
          some ((entries.filterMap Json.text?).filterMap fun host =>
            (Endpoint.ofHost scheme host port).toOption) ∧
        (port = 0 → ofBody? scheme port (String.ofList cs).toUTF8 = some [])) ∧
      (∀ cs v, Json.Document cs v → (∀ entries, v ≠ .array entries) →
        ofBody? scheme port (String.ofList cs).toUTF8 = none) ∧
      ∀ blank c rest, Json.Blank blank → c ∉ [' ', '\t', '\n', '\r', '['] →
        ofBody? scheme port (String.ofList (blank ++ c :: rest)).toUTF8 = none := by
  refine ⟨?_, ?_, ?_⟩
  · intro cs entries hdocument hwithin
    have harray : Json.parse? cs = some (.array entries) := hdocument.parse?_eq hwithin
    rw [ofBody?_toUTF8, ofText?_of_array harray]
    refine ⟨congrArg some (ofEntries_eq scheme port entries), ?_⟩
    rintro rfl
    exact congrArg some (ofEntries_zero scheme entries)
  · intro cs v hdocument hv
    obtain ⟨blank, c, rest, rfl, hblank, hspace, hc⟩ := hdocument.exists_cons hv
    rw [ofBody?_toUTF8, ofText?_eq_none (Json.parse?_ne_array hblank hspace hc)]
  · intro blank c rest hblank hc
    simp only [List.mem_cons, not_or] at hc
    obtain ⟨hspace, htab, hline, hreturn, hbracket, -⟩ := hc
    have hspaces : Json.isSpace c = false := by
      simp only [Json.isSpace, Bool.or_eq_false_iff, beq_eq_false_iff_ne]
      exact ⟨⟨⟨hspace, htab⟩, hline⟩, hreturn⟩
    rw [ofBody?_toUTF8, ofText?_eq_none (Json.parse?_ne_array hblank hspaces hbracket)]

/-- Two nodes, with an object and a name between them. -/
def mixedEntries : List Json :=
  [.string "1.2.3.4", .object [("k", .array [.number ⟨true, 15, 2⟩, .string "😀"])],
    .string "node", .string "::1"]

/-- A text of these entries with blanks, an escaped digit and a surrogate pair. -/
def mixedText : List Char :=
  ['[', '"', '\\', 'u', '0', '0', '3', '1', '.', '2', '.', '3', '.', '4', '"', ' ', ',',
    '\x7b', '"', 'k', '"', ':', ' ', '[', '-', '1', '.', '5', 'e', '+', '3', ',',
    '"', '\\', 'u', 'd', '8', '3', 'd', '\\', 'u', 'd', 'e', '0', '0', '"', ']', '\x7d', ',',
    '"', 'n', 'o', 'd', 'e', '"', ',', '"', ':', ':', '1', '"', ']', '\n']

theorem document_mixedText : Json.Document mixedText (.array mixedEntries) := by
  have hnone : Json.Blank [] := by decide
  have hspace : Json.Blank [' '] := by decide
  have hplain : ∀ text : String, (∀ c ∈ text.toList, 0x20 ≤ c.toNat ∧ c ≠ '"' ∧ c ≠ '\\') →
      Json.StringText ('"' :: (text.toList ++ ['"'])) text :=
    fun text h => .quoted (.of_plain h)
  have hone : Json.UnitText ['0', '0', '3', '1'] '1'.toNat :=
    ⟨(Text.natural?_eq_some_iff (by decide)).mp rfl, rfl⟩
  have hhigh : Json.UnitText ['d', '8', '3', 'd'] 0xd83d :=
    ⟨(Text.natural?_eq_some_iff (by decide)).mp rfl, rfl⟩
  have hlow : Json.UnitText ['d', 'e', '0', '0'] 0xde00 :=
    ⟨(Text.natural?_eq_some_iff (by decide)).mp rfl, rfl⟩
  have hdigits : ∀ {cs : List Char} {n : Nat}, Text.natural? 10 cs = some n → Text.Digits 10 cs n :=
    fun h => (Text.natural?_eq_some_iff (by decide)).mp h
  have hfraction : Json.FractionText ['.', '5'] ['5'] := .present (hdigits (n := 5) rfl)
  have hpower : Json.ExponentText ['e', '+', '3'] 3 := .plus (.inl rfl) (hdigits rfl)
  have hwhole : Text.Digits 10 ['1'] 1 := hdigits rfl
  have hnumber : Json.NumberText _ ⟨true, 15, 2⟩ :=
    .negative (.parts hwhole nofun hfraction hpower (hdigits rfl))
  have htail : Json.CharsText ['.', '2', '.', '3', '.', '4'] ['.', '2', '.', '3', '.', '4'] :=
    .of_plain (by simp)
  have hfirst : Json.StringText _ "1.2.3.4" := .quoted (.cons (.unit hone) htail)
  have hface : Json.StringText _ "😀" :=
    .quoted (.cons (.pair hhigh hlow (by decide) (by decide) (by decide)) .nil)
  have hinner : Json.Written _ (.array [.number ⟨true, 15, 2⟩, .string "😀"]) :=
    .array (.cons (.blanks hnone (.number hnumber) hnone)
      (.single (.blanks hnone (.string hface) hnone)))
  have hobject : Json.Written _ (.object [("k", .array [.number ⟨true, 15, 2⟩, .string "😀"])]) :=
    .object (.single (.blanks hnone (.named (hplain "k" (by simp)) hnone hspace hinner) hnone))
  have harray : Json.Written _ (.array mixedEntries) :=
    .array (.cons (.blanks hnone (.string hfirst) hspace) (.cons (.blanks hnone hobject hnone)
      (.cons (.blanks hnone (.string (hplain "node" (by simp))) hnone)
        (.single (.blanks hnone (.string (hplain "::1" (by simp))) hnone)))))
  have hline : Json.Blank ['\n'] := by decide
  exact .blanks hnone harray hline

theorem within_mixedEntries : Json.Within 127 (.array mixedEntries) := by
  have hpowers : (10 : ℚ) ^ 4 ≤ 10 ^ 308 := pow_le_pow_right₀ (by norm_num) (by decide)
  have hnumber : Json.Within 124 (.number ⟨true, 15, 2⟩) :=
    .number (le_trans (by norm_num [JsonNumber.magnitude]) hpowers)
  refine .array ?_
  simp only [mixedEntries, List.forall_mem_cons]
  refine ⟨.string, .object ?_, .string, .string, nofun⟩
  simp only [List.forall_mem_cons]
  refine ⟨.array ?_, nofun⟩
  simp only [List.forall_mem_cons]
  exact ⟨hnumber, .string, nofun⟩

theorem ofBody?_reads_entries_mixed :
    ofBody? .http 8080 (String.ofList mixedText).toUTF8 =
        some [⟨.http, .v4 ⟨1, 2, 3, 4⟩, 8080⟩,
          ⟨.http, .v6 ⟨[0, 0, 0, 0, 0, 0, 0, 1], rfl⟩, 8080⟩] ∧
      ofBody? .http 0 (String.ofList mixedText).toUTF8 = some [] ∧
      ofBody? .http 8080 (String.ofList ['\x7b', ' ', '\x7d']).toUTF8 = none ∧
      ofBody? .http 8080 (String.ofList [' ', '<', 'h', '1', '>']).toUTF8 = none := by
  have hnone : Json.Blank [] := by decide
  have hspace : Json.Blank [' '] := by decide
  have hempty : Json.Written ['\x7b', ' ', '\x7d'] (.object []) := .emptyObject hspace
  have hobject : Json.Document ['\x7b', ' ', '\x7d'] (.object []) := .blanks hnone hempty hnone
  obtain ⟨harray, hother, hbegins⟩ := ofBody?_reads_entries .http 8080
  obtain ⟨hzero, -, -⟩ := ofBody?_reads_entries .http 0
  refine ⟨?_, (hzero _ _ document_mixedText within_mixedEntries).2 rfl, hother _ _ hobject nofun,
    hbegins [' '] '<' ['h', '1', '>'] hspace (by decide)⟩
  rw [(harray _ _ document_mixedText within_mixedEntries).1]
  decide

end NodeList

end NodeBalancer
