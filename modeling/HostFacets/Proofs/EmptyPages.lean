import HostFacets.Proofs.Pages

/-!
What the empty page that follows a refused window hides.

The engine counts hosts, while an offset is a position among distinct keys. A host has at most one
operating system, so an offset past the hosts is past the keys too. Of tags it may have any number.
-/

namespace HostFacets.Facet

open Search (Request Reply)

/-! ### The keys of hosts -/

/-- The keys that one host may contribute to the buckets of a call. -/
def Call.Contributes : Call → List String → Prop
  | .tags _, _ => True
  | .operatingSystems _, keys => keys.length ≤ 1

/-- The keys that some host contributes, each of them once. -/
structure DistinctKeys (hosts : List (List String)) (distinct : List String) : Prop where
  nodup : distinct.Nodup
  mem_iff : ∀ key, key ∈ distinct ↔ ∃ keys ∈ hosts, key ∈ keys

lemma DistinctKeys.length_le {hosts : List (List String)} {distinct : List String}
    (h : DistinctKeys hosts distinct) (hone : ∀ keys ∈ hosts, keys.length ≤ 1) :
    distinct.length ≤ hosts.length := by
  have hsubset : distinct ⊆ hosts.flatten := fun key hkey =>
    List.mem_flatten.2 ((h.mem_iff key).1 hkey)
  calc distinct.length ≤ hosts.flatten.length := (h.nodup.subperm hsubset).length_le
    _ = (hosts.map List.length).sum := List.length_flatten
    _ ≤ (hosts.map List.length).length • 1 :=
      List.sum_le_card_nsmul _ 1 (List.forall_mem_map.2 hone)
    _ = hosts.length := by simp

/-! ### Refused windows -/

section

variable {σ : Type u} {engine : σ → Request → Reply × σ} {state : σ} {catalog : Catalog}
  {scope : List Constraint} {call : Call} {p : Plan} {hosts : List (List String)}

/-- The engine refuses the buckets of a plan because of the window, and then counts the hosts. -/
structure RefusesAndCounts (engine : σ → Request → Reply × σ) (state : σ) (index : String)
    (call : Call) (p : Plan) (cause : Search.Error) (hits : Nat) : Prop where
  overflow : cause.isWindowOverflow
  refused : (engine state (call.facet.bucketRequest index p)).1 = .error cause
  counted : ∃ response, (engine (engine state (call.facet.bucketRequest index p)).2
    (call.facet.countRequest index p)).1 = .ok response ∧ response.hitsTotal = hits

lemma RefusesAndCounts.answer_eq {cause : Search.Error} {hits : Nat}
    (h : RefusesAndCounts engine state catalog.index call p cause hits)
    (hplan : call.plan catalog scope = .ok p) :
    call.answer engine state catalog scope =
      if p.window.offset ≤ hits then .error (.windowExceeded p.window.offset hits cause)
      else .ok ⟨[], 0⟩ := by
  obtain ⟨response, hcounted, hhits⟩ := h.counted
  rw [(Call.exchange engine state hplan).answer_of_overflow h.refused h.overflow, hcounted, recover,
    hhits]

/-- **Keys behind an empty page**: a refused window is answered with an empty page exactly if its
offset is past the matching hosts. The page hides a key exactly if the offset is also one of the
distinct keys, which never happens to operating systems. -/
theorem emptyPage_hides_iff {cause : Search.Error} {distinct : List String}
    (hplan : call.plan catalog scope = .ok p)
    (hhosts : ∀ keys ∈ hosts, call.Contributes keys) (hdistinct : DistinctKeys hosts distinct)
    (hengine : RefusesAndCounts engine state catalog.index call p cause hosts.length) :
    let answer := call.answer engine state catalog scope
    (p.window.offset : Int) = call.query.offset.getD 0 ∧
    (answer = .ok ⟨[], 0⟩ ↔ hosts.length < p.window.offset) ∧
    (answer ≠ .ok ⟨[], 0⟩ →
      answer = .error (.windowExceeded p.window.offset hosts.length cause)) ∧
    ((answer = .ok ⟨[], 0⟩ ∧ ∃ i key, p.window.offset ≤ i ∧ distinct[i]? = some key) ↔
      hosts.length < p.window.offset ∧ p.window.offset < distinct.length) ∧
    (∀ query, call = .operatingSystems query → answer = .ok ⟨[], 0⟩ →
      ∀ i, p.window.offset ≤ i → distinct[i]? = none) := by
  intro answer
  have hanswer : answer = if p.window.offset ≤ hosts.length then
      .error (.windowExceeded p.window.offset hosts.length cause) else .ok ⟨[], 0⟩ :=
    hengine.answer_eq hplan
  have hempty : answer = .ok ⟨[], 0⟩ ↔ hosts.length < p.window.offset := by
    rw [hanswer]
    split
    · next hle => simpa using hle
    · next hlt => simpa using hlt
  refine ⟨Window.offset_of_ofArguments (plan_ok_iff.1 hplan).1, hempty, ?exceeded, ?hides, ?systems⟩
  case exceeded =>
    intro hne
    rw [hanswer, if_pos (Nat.le_of_not_lt (mt hempty.2 hne))]
  case hides =>
    rw [hempty]
    refine and_congr_right fun _ => ⟨?_, fun hlt => ?_⟩
    · rintro ⟨i, key, hle, hkey⟩
      exact hle.trans_lt (List.getElem?_eq_some_iff.1 hkey).1
    · exact ⟨p.window.offset, _, le_rfl, List.getElem?_eq_getElem hlt⟩
  case systems =>
    rintro query rfl hok i hle
    have hlength := hdistinct.length_le hhosts
    have hlt := hempty.1 hok
    exact List.getElem?_eq_none (by omega)

end

/-! ### A page past three hosts, and a page past one host that has three tags -/

def systemsPage : Call := .operatingSystems { limit := some 2, offset := some 4 }

/-- One of the hosts does not report its operating system. -/
def systemHosts : List (List String) := [["RHEL||||8||||1"], [], ["CentOS||||7||||9"]]

theorem emptyPage_hides_iff_systems :
    systemsPage.plan bareCatalog [] = .ok ⟨⟨2, 4⟩, [Order.tieBreak], []⟩ ∧
      (∀ keys ∈ systemHosts, systemsPage.Contributes keys) ∧
      DistinctKeys systemHosts ["CentOS||||7||||9", "RHEL||||8||||1"] ∧
      RefusesAndCounts (refusing 3) () bareCatalog.index systemsPage
        ⟨⟨2, 4⟩, [Order.tieBreak], []⟩ windowRefusal systemHosts.length ∧
      systemsPage.answer (refusing 3) () bareCatalog [] = .ok ⟨[], 0⟩ ∧
      ∀ i, 4 ≤ i → ["CentOS||||7||||9", "RHEL||||8||||1"][i]? = none := by
  have hplan : systemsPage.plan bareCatalog [] = .ok ⟨⟨2, 4⟩, [Order.tieBreak], []⟩ := rfl
  have hhosts : ∀ keys ∈ systemHosts, systemsPage.Contributes keys := by
    simp [systemHosts, systemsPage, Call.Contributes]
  have hdistinct : DistinctKeys systemHosts ["CentOS||||7||||9", "RHEL||||8||||1"] :=
    ⟨by decide, by simp [systemHosts, or_comm]⟩
  have hengine : RefusesAndCounts (refusing 3) () bareCatalog.index systemsPage
      ⟨⟨2, 4⟩, [Order.tieBreak], []⟩ windowRefusal systemHosts.length := ⟨rfl, rfl, _, rfl, rfl⟩
  obtain ⟨-, hempty, -, -, hnone⟩ := emptyPage_hides_iff hplan hhosts hdistinct hengine
  have hok := hempty.2 (by decide)
  exact ⟨hplan, hhosts, hdistinct, hengine, hok, hnone _ rfl hok⟩

def tagsPage : Call := .tags ⟨{ offset := some 2 }, none⟩

def taggedHost : List String := ["ns/a=1", "ns/a=2", "ns/a=3"]

/-- The third tag of the only host lies behind an empty page. -/
theorem emptyPage_hides_tag :
    tagsPage.plan bareCatalog [] = .ok ⟨⟨10, 2⟩, [Order.tieBreak], []⟩ ∧
      (∀ keys ∈ [taggedHost], tagsPage.Contributes keys) ∧
      DistinctKeys [taggedHost] taggedHost ∧
      RefusesAndCounts (refusing 1) () bareCatalog.index tagsPage
        ⟨⟨10, 2⟩, [Order.tieBreak], []⟩ windowRefusal [taggedHost].length ∧
      tagsPage.answer (refusing 1) () bareCatalog [] = .ok ⟨[], 0⟩ ∧
      ¬ ∀ i, 2 ≤ i → taggedHost[i]? = none := by
  have hdistinct : DistinctKeys [taggedHost] taggedHost := ⟨by decide, by simp⟩
  have hhidden : ¬ ∀ i, 2 ≤ i → taggedHost[i]? = none := fun h =>
    Option.some_ne_none _ (h 2 le_rfl)
  exact ⟨rfl, fun _ _ => trivial, hdistinct, ⟨rfl, rfl, _, rfl, rfl⟩, rfl, hhidden⟩

end HostFacets.Facet
