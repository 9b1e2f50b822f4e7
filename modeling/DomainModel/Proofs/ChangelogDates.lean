import DomainModel.Proofs.ConversionEquation
import DomainModel.Proofs.Stamps

/-!
# The dates of the records

The date of a record is as many seconds after the creation as its last declaration has places
before it, plus one, so dates are as different as places are.  Where no name is declared twice, the
records stand in the order of their places as well, and so do their dates
(`Request.changelogDates_of_run`).
-/

namespace DomainModel

/-! ## Places of declarations -/

namespace IsLastDeclaration

variable {es : List Entity} {name name' : String} {i j : Nat} {e e' : Entity}

theorem name_unique (h : IsLastDeclaration es name i e) (h' : IsLastDeclaration es name' i e') :
    name = name' := by
  have he : e = e' := Option.some.inj (h.at_place.symm.trans h'.at_place)
  have hn := h.has_name
  rw [he, h'.has_name] at hn
  exact (Option.some.inj hn).symm

theorem of_cons (hne : e.name ≠ some name) (h : IsLastDeclaration (e :: es) name i e') :
    ∃ j, i = j + 1 ∧ IsLastDeclaration es name j e' := by
  cases i with
  | zero =>
    have he : e = e' := by simpa using h.at_place
    rw [he] at hne
    exact absurd h.has_name hne
  | succ j => exact ⟨j, rfl, by simpa using h.at_place, h.has_name, by simpa using h.is_last⟩

theorem eq_zero_of_not_mem (hname : name ∉ es.filterMap (·.name))
    (h : IsLastDeclaration (e :: es) name i e') : i = 0 := by
  cases i with
  | zero => rfl
  | succ j =>
    have hmem : e' ∈ es := List.mem_of_getElem? (by simpa using h.at_place)
    exact absurd (List.mem_filterMap.2 ⟨e', hmem, h.has_name⟩) hname

theorem lt_length (h : IsLastDeclaration es name i e) : i < es.length :=
  (List.getElem?_eq_some_iff.1 h.at_place).1

end IsLastDeclaration

/-- The last declaration of one name comes before that of another. -/
def DeclaredBefore (es : List Entity) (name name' : String) : Prop :=
  ∀ i j e e', IsLastDeclaration es name i e → IsLastDeclaration es name' j e' → i < j

theorem DeclaredBefore.cons {es : List Entity} {e : Entity} {name name' : String}
    (h : DeclaredBefore es name name') (hne : e.name ≠ some name) (hne' : e.name ≠ some name') :
    DeclaredBefore (e :: es) name name' := by
  intro i j a b ha hb
  obtain ⟨i', rfl, ha'⟩ := ha.of_cons hne
  obtain ⟨j', rfl, hb'⟩ := hb.of_cons hne'
  exact Nat.succ_lt_succ (h i' j' a b ha' hb')

/-- Where no name is declared twice, the names are in the order of their places. -/
theorem pairwise_declaredBefore : ∀ {es : List Entity}, (es.filterMap (·.name)).Nodup →
    (es.filterMap (·.name)).Pairwise (DeclaredBefore es)
  | [], _ => .nil
  | e :: es, h => by
    rcases hn : e.name with _ | first
    · rw [List.filterMap_cons_none hn] at h ⊢
      exact (pairwise_declaredBefore h).imp fun hlt => hlt.cons (by simp [hn]) (by simp [hn])
    rw [List.filterMap_cons_some hn] at h ⊢
    obtain ⟨hfirst, h⟩ := List.nodup_cons.1 h
    have hne : ∀ name ∈ es.filterMap (·.name), e.name ≠ some name := by
      rintro name hname heq
      rw [hn] at heq
      cases heq
      exact hfirst hname
    refine List.pairwise_cons.2 ⟨fun name hname i j a b ha hb => ?_, ?_⟩
    · obtain ⟨j', rfl, -⟩ := hb.of_cons (hne name hname)
      rw [ha.eq_zero_of_not_mem hfirst]
      exact Nat.succ_pos j'
    · exact (pairwise_declaredBefore h).imp_of_mem fun hname hname' hlt =>
        hlt.cons (hne _ hname) (hne _ hname')

/-! ## Dates -/

theorem Instant.changelogStamp_ok {t : Instant} {n : Int} {text : String}
    (h : t.changelogStamp n = .ok text) :
    ∃ t' : Instant, t'.seconds = t.seconds + n ∧ text = t'.stamp := by
  unfold changelogStamp at h
  obtain ⟨t', ht, rfl⟩ := exists_of_map_ok h
  refine ⟨t', ?_, rfl⟩
  unfold shift ofSeconds? at ht
  split at ht
  · cases ht
  · split at ht
    · rename_i heq
      split at heq
      · cases heq
        cases ht
        rfl
      · cases heq
    · cases ht

namespace Graph

variable {g : Graph} {application : String} {created : Instant} {log : List Notice}
  {c : Conversion}

theorem changelogDate_of_convert (h : (g.convert application created log).result = .ok c)
    {record : EntityRecord} (hr : record ∈ c.records) :
    ∃ i e t, IsLastDeclaration g.entities record.name i e ∧
      t.seconds = created.seconds + (i + 1 : Nat) ∧ record.changelogDate = Instant.stamp t := by
  obtain ⟨i, e, date, hl, hd, heq⟩ := (records_of_convert h).2 record hr
  obtain ⟨t, ht, rfl⟩ := Instant.changelogStamp_ok hd
  exact ⟨i, e, t, hl, ht, congrArg EntityRecord.changelogDate heq⟩

theorem nodup_names_of_convert (h : (g.convert application created log).result = .ok c) :
    (c.records.map (·.name)).Nodup := by
  obtain ⟨-, -, fresh, hfresh, -⟩ := result_convert_eq_ok_iff.1 h
  rw [(records_of_convert h).1, ← keys_freshRecords hfresh]
  exact fresh.nodup

theorem nodup_changelogDates_of_convert
    (h : (g.convert application created log).result = .ok c) :
    (c.records.map (·.changelogDate)).Nodup := by
  have hnames := List.pairwise_map.1 (nodup_names_of_convert h)
  refine List.pairwise_map.2 (hnames.imp_of_mem fun hr hr' hne heq => hne ?_)
  obtain ⟨i, e, t, hl, ht, hd⟩ := changelogDate_of_convert h hr
  obtain ⟨i', e', t', hl', ht', hd'⟩ := changelogDate_of_convert h hr'
  have hs : t.seconds = t'.seconds := Instant.stamp_injective (by rw [← hd, heq, hd'])
  obtain rfl : i = i' := by omega
  exact hl.name_unique hl'

theorem pairwise_changelogDates_of_convert
    (h : (g.convert application created log).result = .ok c) (hnames : g.entityNames.Nodup)
    (hyears : ∀ i < g.entities.length, Instant.InFourDigitYear (created.seconds + (i + 1 : Nat))) :
    (c.records.map (·.changelogDate)).Pairwise (· < ·) := by
  have hplaces : (c.records.map (·.name)).Pairwise (DeclaredBefore g.entities) := by
    rw [(records_of_convert h).1, recordNames_eq, eraseDups_of_nodup (hnames.filter _)]
    exact (pairwise_declaredBefore hnames).filter _
  refine List.pairwise_map.2 ((List.pairwise_map.1 hplaces).imp_of_mem fun hr hr' hlt => ?_)
  obtain ⟨i, e, t, hl, ht, hd⟩ := changelogDate_of_convert h hr
  obtain ⟨i', e', t', hl', ht', hd'⟩ := changelogDate_of_convert h hr'
  have := hlt i i' e e' hl hl'
  rw [hd, hd']
  exact Instant.stamp_lt (ht ▸ hyears i hl.lt_length) (ht' ▸ hyears i' hl'.lt_length) (by omega)

end Graph

/-- No two records of a conversion have the same changelog date.  If no name is declared twice, and
every place of the graph has an instant in the years 0 to 9999, the dates have fourteen digits and
grow from record to record. -/
theorem Request.changelogDates_of_run {r : Request} {now : Instant} {c : Conversion} {g : Graph}
    (h : (r.run now).result = .ok c) (hg : r.graph = some g) :
    (c.records.map (·.changelogDate)).Nodup ∧
      (g.entityNames.Nodup →
        (∀ i < g.entities.length,
          Instant.InFourDigitYear ((r.created.getD now).seconds + (i + 1 : Nat))) →
        (∀ record ∈ c.records, record.changelogDate.length = 14 ∧
          ∀ ch ∈ record.changelogDate.toList, ch.isDigit = true) ∧
        (c.records.map (·.changelogDate)).Pairwise (· < ·)) := by
  obtain ⟨g', application, log, hg', -, hc⟩ := run_ok h
  cases hg.symm.trans hg'
  refine ⟨Graph.nodup_changelogDates_of_convert hc, fun hnames hyears => ⟨?_, ?_⟩⟩
  · intro record hr
    obtain ⟨i, e, t, hl, ht, hd⟩ := Graph.changelogDate_of_convert hc hr
    obtain ⟨hlen, hdigits, -⟩ := Instant.stampChars_digits (ht ▸ hyears i hl.lt_length)
    rw [hd, Instant.stamp, String.length_ofList, String.toList_ofList]
    exact ⟨hlen, hdigits⟩
  · exact Graph.pairwise_changelogDates_of_convert hc hnames hyears

/-- Invoices, a user and customers, created in the last seconds of 2019. -/
def Request.newYear : Request where
  graph := some { entities := [.named "Invoice", {}, .named "User", .named "Customer"] }
  application := some "shop"
  database := some "sql"
  created := some ⟨1577836797, by decide, by decide⟩

theorem Request.changelogDates_of_run_newYear : ∃ c g, newYear.graph = some g ∧
    (newYear.run .epoch).result = .ok c ∧
    c.records.map (·.changelogDate) = ["20191231235958", "20200101000001"] ∧
    (c.records.map (·.changelogDate)).Nodup ∧
    g.entityNames.Nodup ∧
    (∀ i < g.entities.length, Instant.InFourDigitYear (1577836797 + (i + 1 : Nat))) ∧
    (∀ record ∈ c.records, record.changelogDate.length = 14 ∧
      ∀ ch ∈ record.changelogDate.toList, ch.isDigit = true) ∧
    (c.records.map (·.changelogDate)).Pairwise (· < ·) := by
  obtain ⟨c, hc, hdates⟩ : ∃ c, (newYear.run .epoch).result = .ok c ∧
      c.records.map (·.changelogDate) = ["20191231235958", "20200101000001"] := by
    apply exists_of_map_toOption
    decide +kernel
  obtain ⟨hnodup, hmore⟩ := changelogDates_of_run hc rfl
  have hnames : (Graph.entityNames { entities :=
      [.named "Invoice", {}, .named "User", .named "Customer"] }).Nodup := by decide
  have hyears : ∀ i < 4, Instant.InFourDigitYear (1577836797 + (i + 1 : Nat)) := by
    unfold Instant.InFourDigitYear
    decide
  exact ⟨c, _, rfl, hc, hdates, hnodup, hnames, hyears, hmore hnames hyears⟩

end DomainModel
