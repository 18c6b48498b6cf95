import Itertk.Cgi.Pages
import Itertk.Web.Exchange

/-!
# Browsers

Users change the settings from their browsers: each press of a button is one run of a program
of the web server, which queries a record and sets it, and other users' programs query it
meanwhile and afterwards.

## Main result

* `seen_after_saved` — what one user has saved on a page is what another user is shown who
  opens the page later.
-/

namespace Itertk.Web.Browsers

open Itertk.Base.Memory
open Itertk.Base.Controls
open Itertk.Base.Registers
open Itertk.Base.Run
open Itertk.Daemon.Layout
open Itertk.Daemon.State
open Itertk.Itsip.Socket
open Itertk.Itsip.Header
open Itertk.Itsip.Library
open Itertk.Itsip.Calls
open Itertk.Cgi.Session
open Itertk.Cgi.UrlEncoded
open Itertk.Cgi.Multipart
open Itertk.Cgi.Request
open Itertk.Cgi.Forms
open Itertk.Cgi.Pages
open Itertk.Web.Handlers
open Itertk.Web.PortRecords
open Itertk.Web.Records
open Itertk.Web.Exchange

/-! ## The record of a page -/

/-- The record that a page is about, if the daemon keeps it. -/
def cellOf (con : Mem) : Settings → Option Cell
  | .com => (portOf (idOf con)).map .com
  | .mode => (portOf (idOf con)).map .mode
  | .vlan => some .vlan
  | .gpioSet => none

variable {s : Settings} {con : Mem} {c : Cell}

/-- Saving leaves the id alone. -/
theorem cellOf_applied (s : Settings) (con shows : Mem) (ticked : Bool) :
    cellOf (s.applied shows ticked con) s = cellOf con s := by
  have hid : ∀ s : Settings, (∀ i, i < 4 → s.Outside i) →
      idOf (s.applied shows ticked con) = idOf con := by
    intro s hs
    rw [idOf, idOf]
    congr 1
    exact load32_congr fun i hi => Settings.applied_outside (hs _ (by omega))
  cases s with
  | vlan | gpioSet => rfl
  | com =>
      have hout : ∀ i, i < 4 → Settings.com.Outside i := by
        intro i hi
        have hfields : ∀ f ∈ Settings.com.fields, 4 ≤ f.slot.off := by decide
        exact ⟨fun f hf => .inl (by have := hfields f hf; omega), fun _ => by omega⟩
      simp only [cellOf, hid _ hout]
  | mode =>
      have hout : ∀ i, i < 4 → Settings.mode.Outside i := by
        intro i hi
        have hfields : ∀ f ∈ Settings.mode.fields, 4 ≤ f.slot.off := by decide
        exact ⟨fun f hf => .inl (by have := hfields f hf; omega), fun h => Settings.noConfusion h⟩
      simp only [cellOf, hid _ hout]

private theorem op_query (name : List UInt8) (h : cellOf con s = some c) :
    op (s.query name con) = .query c := by
  cases s with
  | gpioSet => cases h
  | vlan =>
      cases h
      rfl
  | com | mode =>
      obtain ⟨p, hp, rfl⟩ := Option.map_eq_some_iff.mp h
      show portQuery _ (idOf con) = _
      rw [portQuery, hp]

/-- The settings of a line, as the page shows them. -/
theorem get_com_congr {m m' : Mem} {old : ConfigCom}
    (h : ConfigCom.load m 0 = withLine old (ConfigCom.load m' 0)) :
    ∀ f ∈ Settings.com.fields, f.slot.get m = f.slot.get m' := by
  intro f hf
  simp only [Settings.fields, List.mem_cons, List.not_mem_nil, or_false] at hf
  rcases hf with rfl | rfl | rfl | rfl | rfl | rfl
  · exact congrArg ConfigCom.bps h
  · exact congrArg (fun c => c.dbit.toUInt32) h
  · exact congrArg (fun c => c.chk.toUInt32) h
  · exact congrArg ConfigCom.sbit h
  · exact congrArg (fun c => c.type.toUInt32) h
  · exact congrArg (fun c => c.isloop.toUInt32) h

private theorem receivedCom_slice (con : Mem) :
    receivedCom (slice con 0 comSize) = ConfigCom.load con 0 := by
  apply ConfigCom.load_congr
  intro i hi
  have hhit := blit_hit zero 0 i (slice con 0 comSize) (by rwa [slice_length])
  rw [hhit, getElem_slice]

/-- The fields lie in the record. -/
theorem fields_within (h : cellOf con s = some c) :
    ∀ f ∈ s.fields, f.slot.off + f.slot.size ≤ c.size := by
  cases s with
  | gpioSet => cases h
  | vlan =>
      cases h
      decide
  | com | mode =>
      obtain ⟨p, -, rfl⟩ := Option.map_eq_some_iff.mp h
      simp only [Cell.size]
      decide

/-- The records that a setting is for: that of the page, and those of all ports. -/
def Covers (s : Settings) (con : Mem) (c : Cell) : Prop :=
  cellOf con s = some c ∨ s = .com ∧ con 17 = 1 ∧ ∃ p, c = .com p

private theorem effect_com (con : Mem) (p : Fin maxComPort) (old : List UInt8) :
    effect (Settings.com.set con) (.com p) old =
      if con 17 = 1 then spread old (slice con 0 comSize)
      else if portOf (idOf con) = some p then slice con 0 comSize else old := by
  have hall : (receivedCom (slice con 0 comSize)).all = con 17 := by
    rw [receivedCom_slice]
    rfl
  rw [← hall]
  rfl

/-- Without "all ports", the record of the page is overwritten. -/
theorem effect_own (h : cellOf con s = some c) (hone : s = .com → con 17 ≠ 1) (old : List UInt8) :
    effect (s.set con) c old = slice con 0 c.size := by
  cases s with
  | gpioSet => cases h
  | vlan =>
      cases h
      rfl
  | com =>
      obtain ⟨p, hp, rfl⟩ := Option.map_eq_some_iff.mp h
      rw [effect_com, if_neg (hone rfl), if_pos hp]
      rfl
  | mode =>
      obtain ⟨p, hp, rfl⟩ := Option.map_eq_some_iff.mp h
      show (if portOf (idOf con) = some p then _ else _) = _
      rw [if_pos hp]
      rfl

/-- A record that has been set shows what the page showed. -/
theorem get_effect (h : Covers s con c) (old : List UInt8) (dst : Mem) :
    ∀ f ∈ s.fields, f.slot.get (blit dst 0 (effect (s.set con) c old)) = f.slot.get con := by
  by_cases hone : s = .com ∧ con 17 = 1
  · obtain ⟨rfl, hone⟩ := hone
    obtain ⟨p, rfl⟩ : ∃ p, c = .com p := by
      rcases h with h | h
      · obtain ⟨p, -, hp⟩ := Option.map_eq_some_iff.mp h
        exact ⟨p, hp.symm⟩
      · exact h.2.2
    rw [effect_com, if_pos hone]
    refine @get_com_congr _ _ (receivedCom old) ?_
    rw [spread, ConfigCom.load_bytes, receivedCom_slice]
  · have hc : cellOf con s = some c := h.resolve_right fun h => hone ⟨h.1, h.2.1⟩
    intro f hf
    have hwithin := fields_within hc f hf
    rw [effect_own hc fun hs h17 => hone ⟨hs, h17⟩]
    apply Slot.get_congr
    intro i _ hi
    have hhit := blit_hit dst 0 i (slice con 0 c.size) (by rw [slice_length]; omega)
    rw [Nat.zero_add] at hhit
    rw [hhit, getElem_slice, Nat.zero_add]

private theorem effect_query (name : List UInt8) (s : Settings) (start : Mem) (c : Cell)
    (old : List UInt8) : effect (s.query name start) c old = old := by
  cases s <;> cases c <;> rfl

/-! ## From one browser to another -/

variable {ι : Type} [DecidableEq ι]

/-- What one user saves on a page is what another user is shown who opens the page afterwards,
and with the box for all ports, whoever opens the page of any port: unless the query of the
other's program was turned down, or the port was one with limits. -/
theorem seen_after_saved (t : Settings) {con shows : Mem} {ticked : Bool} {data : List UInt8}
    (h : Submitted (sent t.button (t.page con shows ticked)) data) {x : Environment}
    (hx : Submits data x) {tmp : Temporary} {files : Files} {n : Nat} {form : List FormEntry}
    (hparse : parseRequest tmp x files n = some (.success ⟨form, files, 0⟩))
    {programs : ι → Program} (hp : ∀ i, WellBehaved (programs i)) {st : System ι}
    (hstart : Starts programs st) (schedule : List (ι × Env))
    (hnet : ∀ i, unread (programs i).conn.incoming <+: ((exec serve st schedule).conns i).sent)
    {s q : ι} {before between behind : List ι}
    (horder : firsts (schedule.map Prod.fst) = (before ++ s :: between) ++ q :: behind)
    (hsaved : (programs s).call = t.set (t.edit (form.map FormEntry.field) con))
    (hok : (programs s).set = t.okCode) {name : List UInt8} {start : Mem} {c : Cell}
    (hopened : (programs q).call = t.query name start) (hc : cellOf start t = some c)
    (hcovers : cellOf con t = some c ∨ t = .com ∧ ticked = true ∧ ∃ p, c = .com p)
    (hkept : ∀ j ∈ between, ∀ old, effect (programs j).call c old = old)
    (hdst : (programs q).query.1 = queryOk) :
    (∀ f ∈ t.fields, f.control (programs q).query.2 = f.control shows) ∨
      (programs q).query.2 = (programs q).dst ∨
      ∃ calls, calls.Sublist (firsts (schedule.map Prod.fst)) ∧
        Limited (after programs st.dev.conf calls) (programs s).call := by
  obtain ⟨log, hlog⟩ := explains_run hp schedule (explains_start hstart)
  rw [List.nil_append] at hlog
  obtain ⟨form', hparse', hform⟩ := t.parseRequest_page h hx tmp files n
  have hsame : form' = form := by
    rw [hparse] at hparse'
    cases hparse'
    rfl
  subst hsame
  rw [hform, t.edit_page] at hsaved
  have hset : op (programs s).call = .set t.okCode := by
    rw [hsaved]
    cases t with
    | gpioSet => cases hc
    | com | mode | vlan => rfl
  have hquery : op (programs q).call = .query c := by
    rw [hopened]
    exact op_query name hc
  have hidle : ∀ j ∈ between ++ [q], ∀ old, effect (programs j).call c old = old := by
    intro j hj
    rcases List.mem_append.mp hj with hj | hj
    · exact hkept j hj
    · rw [List.mem_singleton.mp hj, hopened]
      exact effect_query name t start c
  have hcover : Covers t (t.applied shows ticked con) c := by
    rcases hcovers with hown | ⟨rfl, rfl, hport⟩
    · exact .inl ((cellOf_applied t con shows ticked).trans hown)
    · exact .inr ⟨rfl, store_self _ 17 _, hport⟩
  rcases hlog.read_back (hnet s) (hnet q) horder hset hok hidle hquery hdst with ⟨old, hold⟩ | hrest
  · refine .inl fun f hf => ?_
    rw [hold, hsaved, Field.control, get_effect hcover old _ f hf]
    exact Settings.control_applied hf
  · exact .inr hrest

/-- The VLAN tag is switched on in one browser, and shown in another. -/
theorem seen_after_saved_some :
    (∀ f ∈ Settings.vlan.fields,
        f.control (somePrograms someAnswers true).query.2 = f.control (store zero 0 1)) ∨
      (somePrograms someAnswers true).query.2 = zero ∨
      ∃ calls, calls.Sublist (firsts (someSchedule.map Prod.fst)) ∧
        Limited (after (somePrograms someAnswers) someSystem.dev.conf calls) (someCall false) := by
  obtain ⟨data, hdata⟩ := exists_submitted (sent Settings.vlan.button
    (Settings.vlan.page (store zero 0 1) (store zero 0 1) false))
  have hx := submits_get data
  obtain ⟨form, hparse, hform⟩ := Settings.vlan.parseRequest_page hdata hx someTemporary boot 0
  have hsaved : (somePrograms someAnswers false).call =
      Settings.vlan.set (Settings.vlan.edit (form.map FormEntry.field) (store zero 0 1)) := by
    have hself : Settings.vlan.applied (store zero 0 1) false (store zero 0 1) = store zero 0 1 :=
      Settings.applied_self_iff.mpr ⟨by decide, fun h => Settings.noConfusion h⟩
    rw [hform, Settings.edit_page, hself]
    rfl
  exact @seen_after_saved Bool _ .vlan _ _ false data hdata _ hx _ _ _ form hparse
    (somePrograms someAnswers) (wellBehaved_some someAnswers) someSystem (starts_some someAnswers)
    someSchedule brings_someAnswers false true [] [] [] rfl hsaved (by decide +kernel) [114] zero
    .vlan rfl rfl (.inl rfl) (fun j hj => absurd hj List.not_mem_nil) (by decide +kernel)

end Itertk.Web.Browsers
