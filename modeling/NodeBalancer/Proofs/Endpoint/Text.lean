import NodeBalancer.Proofs.Discovery.Locator
import NodeBalancer.Proofs.Endpoint.Hosts

/-!
# Endpoints that are written and read

The text of an endpoint falls into a scheme, a host and a port in one way only, and the endpoint that
is made of these parts is the one that was written.

* `Endpoint.Splits.unique`: there is one scheme, one host and one port.
* `Endpoint.text_round_trip`: an endpoint is made again from the parts of its text, with or without
  brackets around the host, so that no two endpoints have the same text.
-/

namespace NodeBalancer

theorem Scheme.parse_name (s : Scheme) : Scheme.parse s.name = .ok s := by
  cases s <;> decide

theorem Scheme.name_injective {s s' : Scheme} (h : s.name = s'.name) : s = s' := by
  have hparse := s.parse_name
  rw [h, s'.parse_name] at hparse
  exact (Except.ok.inj hparse).symm

namespace Endpoint

/-- A text that is a scheme, a host and a port; the last colon stands before the port. -/
structure Splits (text scheme host port : String) : Prop where
  text_eq : text = scheme ++ "://" ++ host ++ ":" ++ port
  colon_not_mem : ':' ∉ port.toList

theorem Splits.toList_eq {text scheme host port : String} (h : Splits text scheme host port) :
    text.toList =
      (scheme.toList ++ [':']) ++ '/' :: '/' :: (host.toList ++ ':' :: port.toList) := by
  rw [h.text_eq]
  simp

/-- Where two slashes are all that there are, there is one way to split a text. -/
theorem Splits.unique {text scheme host port scheme' host' port' : String}
    (h : Splits text scheme host port) (h' : Splits text scheme' host' port')
    (hslashes : text.toList.count '/' = 2) : scheme' = scheme ∧ host' = host ∧ port' = port := by
  have hscheme : ∀ {s t u : String}, Splits text s t u → '/' ∉ s.toList ++ [':'] := by
    intro s t u hsplits
    rw [hsplits.toList_eq] at hslashes
    simp only [List.count_append, List.count_cons, beq_self_eq_true, if_true] at hslashes
    exact List.count_eq_zero.mp (by rw [List.count_append, List.count_cons]; omega)
  obtain ⟨hfront, hbehind⟩ := Text.append_inj_of_first (hscheme h') (hscheme h)
    (h'.toList_eq.symm.trans h.toList_eq)
  obtain ⟨hhost, hport⟩ := Text.append_inj_of_last h'.colon_not_mem h.colon_not_mem
    (List.cons.inj hbehind).2
  exact ⟨String.toList_inj.mp (List.append_cancel_right hfront), String.toList_inj.mp hhost,
    String.toList_inj.mp hport⟩

/-! ## The parts that are written -/

def hostText (e : Endpoint) : String := String.ofList e.address.hostDigits

def portText (e : Endpoint) : String := String.ofList (Nat.toDigits 10 e.port.toNat)

theorem digits_portText (e : Endpoint) : Text.Digits 10 e.portText.toList e.port.toNat := by
  rw [portText, String.toList_ofList, ← Text.natural?_eq_some_iff (by decide)]
  exact Text.natural?_toDigits (by decide) (by decide) _

theorem splits_text (e : Endpoint) : Splits e.text e.scheme.name e.hostText e.portText where
  text_eq := by simp [text, socketText, hostText, portText, String.append_assoc]
  colon_not_mem := e.digits_portText.not_mem (by decide) (by decide)

theorem count_slash_text (e : Endpoint) : e.text.toList.count '/' = 2 := by
  have hname : e.scheme.name.toList.count '/' = 0 := by
    cases e.scheme <;> decide
  have hhost : e.hostText.toList.count '/' = 0 := by
    rw [hostText, String.toList_ofList]
    exact List.count_eq_zero.mpr
      (Locator.not_mem_of_hostText (Locator.hostText_hostDigits _) (by decide) (by decide))
  have hport : e.portText.toList.count '/' = 0 :=
    List.count_eq_zero.mpr (e.digits_portText.not_mem (by decide) (by decide))
  rw [e.splits_text.toList_eq]
  simp [hname, hhost, hport]

/-! ## The parts that are read -/

theorem written_digits (a : Address) : Address.Written a.digits a :=
  Address.parse?_eq_some_iff.mp a.parse?_digits

theorem hostNames_hostText (e : Endpoint) : HostNames e.hostText.toList e.address := by
  rw [hostText, String.toList_ofList]
  have hwritten := written_digits e.address
  cases h : e.address with
  | v4 a =>
    rw [h] at hwritten
    exact .bare hwritten
  | v6 a =>
    rw [h] at hwritten
    exact .bracketed hwritten

/-- A host is in brackets if its address has the long form, and inside them stands the address. -/
theorem hostText_eq_bracketed_iff (e : Endpoint) (inner : String) :
    e.hostText = "[" ++ inner ++ "]" ↔ e.address.isV6 = true ∧ inner = e.address.text := by
  rw [hostText, ← String.toList_inj, String.toList_ofList]
  cases h : e.address with
  | v4 a =>
    refine iff_of_false (fun hdigits => ?_) fun h => nomatch h.1
    have hbracket : '[' ∈ a.digits := by
      rw [show a.digits = _ from hdigits]
      simp
    exact V4.not_mem_of_parse? a.parse?_digits (by decide) (by decide) hbracket
  | v6 a =>
    have hinner : '[' :: (a.digits ++ [']']) = ("[" ++ inner ++ "]").toList ↔
        inner.toList = a.digits := by
      simp [eq_comm]
    refine hinner.trans ?_
    rw [Address.text, ← String.toList_inj, String.toList_ofList]
    exact ⟨fun hdigits => ⟨rfl, hdigits⟩, And.right⟩

/-- The parts of a text tell the endpoint. -/
theorem eq_of_parts {e e' : Endpoint} (hscheme : e'.scheme.name = e.scheme.name)
    (hhost : e'.hostText = e.hostText) (hport : e'.portText = e.portText) : e' = e := by
  have haddress : e'.address = e.address := by
    have h' := hostAddress?_eq_some_iff.mpr e'.hostNames_hostText
    rw [hhost, hostAddress?_eq_some_iff.mpr e.hostNames_hostText] at h'
    exact (Option.some.inj h').symm
  have hnumber : e'.port = e.port := by
    have h' := (Text.natural?_eq_some_iff (by decide)).mpr e'.digits_portText
    rw [hport, (Text.natural?_eq_some_iff (by decide)).mpr e.digits_portText] at h'
    exact (UInt16.toNat_inj.mp (Option.some.inj h')).symm
  obtain ⟨scheme, address, port⟩ := e
  obtain ⟨scheme', address', port'⟩ := e'
  cases Scheme.name_injective hscheme
  cases haddress
  cases hnumber
  rfl

/-- **An endpoint is made again from the parts of its text**, and there is one way to take the text
apart. -/
theorem text_round_trip (e : Endpoint) (hport : e.port ≠ 0) :
    ∃ scheme host port : String, Splits e.text scheme host port ∧
      (∀ s h p, Splits e.text s h p → s = scheme ∧ h = host ∧ p = port) ∧
      ((∃ inner, host = "[" ++ inner ++ "]") ↔ e.address.isV6 = true) ∧
      Scheme.parse scheme = .ok e.scheme ∧ Text.Digits 10 port.toList e.port.toNat ∧
      ofHost e.scheme host e.port.toNat = .ok e ∧
      (∀ inner, host = "[" ++ inner ++ "]" → ofHost e.scheme inner e.port.toNat = .ok e) ∧
      ∀ e' : Endpoint, e'.text = e.text → e' = e := by
  have hsplits := e.splits_text
  have hgood : 1 ≤ e.port.toNat ∧ e.port.toNat ≤ 65535 := by
    have hlt : e.port.toNat < 65536 := e.port.toNat_lt
    have hne : e.port.toNat ≠ 0 := fun hzero => hport (UInt16.toNat_inj.mp hzero)
    omega
  refine ⟨e.scheme.name, e.hostText, e.portText, hsplits, fun s h p hother =>
    hsplits.unique hother e.count_slash_text, ?_, e.scheme.parse_name, e.digits_portText, ?_, ?_,
    ?_⟩
  · constructor
    · rintro ⟨inner, hinner⟩
      exact ((e.hostText_eq_bracketed_iff inner).mp hinner).1
    · intro hv6
      exact ⟨_, (e.hostText_eq_bracketed_iff e.address.text).mpr ⟨hv6, rfl⟩⟩
  · exact ofHost_eq_ok_iff.mpr ⟨hgood, e.hostNames_hostText, rfl, rfl⟩
  · intro inner hinner
    obtain ⟨-, rfl⟩ := (e.hostText_eq_bracketed_iff inner).mp hinner
    refine ofHost_eq_ok_iff.mpr ⟨hgood, ?_, rfl, rfl⟩
    rw [Address.text, String.toList_ofList]
    exact .bare (written_digits e.address)
  · intro e' htext
    have hsplits' := e'.splits_text
    rw [htext] at hsplits'
    obtain ⟨hscheme, hhost, hnumber⟩ := hsplits.unique hsplits' e.count_slash_text
    exact eq_of_parts hscheme hhost hnumber

/-- An address with two runs of zeros of one length, of which the first is left out. -/
def twoRuns : Endpoint :=
  ⟨.https, .v6 ⟨[0x2001, 0xdb8, 0, 0, 1, 0, 0, 1], rfl⟩, 8043⟩

theorem text_round_trip_twoRuns :
    Splits twoRuns.text "https" "[2001:db8::1:0:0:1]" "8043" ∧
      ofHost .https "[2001:db8::1:0:0:1]" 8043 = .ok twoRuns ∧
      ofHost .https "2001:db8::1:0:0:1" 8043 = .ok twoRuns := by
  have hsplits : Splits twoRuns.text "https" "[2001:db8::1:0:0:1]" "8043" :=
    ⟨by decide +kernel, by decide⟩
  obtain ⟨scheme, host, port, -, hunique, -, -, -, hmade, hinner, -⟩ :=
    text_round_trip twoRuns (by decide)
  obtain ⟨rfl, rfl, rfl⟩ := hunique _ _ _ hsplits
  exact ⟨hsplits, hmade, hinner _ rfl⟩

end Endpoint

end NodeBalancer
