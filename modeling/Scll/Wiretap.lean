import Scll.Framework.Run
import Scll.Manager
import Scll.SlotLeak
import Scll.Workflow.Frames
import Scll.Workflow.OpenSpec

/-! # What goes over the wire

    A transport with a tap keeps the octets it was given, a backend with a log
    keeps what it derived and wrapped. Discovery sends SELECT and GET DATA in
    clear. An open sends SELECT and INITIALIZE UPDATE in clear, then derives a
    session, and sends EXTERNAL AUTHENTICATE wrapped for that session. All else
    on the wire is what the backend has wrapped for the retained session. Each
    wrapped command is sent once and in the order of the wraps. This is so for
    any transport and any backend, and for every run of manager calls.
-/

namespace Scll

open Cap Run Workflow

namespace Wiretap

/-! ### The tap and the log -/

/-- A transport whose line is tapped. -/
structure Tapped (τ : Type) where
  inner : τ
  wire : List Capdu

instance {τ : Type} [Transport τ] : Transport (Tapped τ) where
  transmit capdu t :=
    ((Transport.transmit capdu t.inner).1,
      ⟨(Transport.transmit capdu t.inner).2, t.wire ++ [capdu]⟩)
  capabilities t := Transport.capabilities t.inner
  reset t := (((Transport.reset) t.inner).1, { t with inner := ((Transport.reset) t.inner).2 })
  protocol t := Transport.protocol t.inner
  isConnected t := Transport.isConnected t.inner

/-- A command that was wrapped, and for which session. -/
structure Wrapped where
  handle : SessionHandle
  plain : Capdu
  wire : Capdu

/-- What a backend notes down. -/
inductive Noted where
  | derived (handle : SessionHandle)
  | wrapped (x : Wrapped)

/-- A backend that keeps what it derives and wraps. -/
structure Logged (β : Type) where
  inner : β
  log : List Noted

section logged

variable {β : Type}

/-- What the inner backend does, with nothing to note. -/
def through {α : Type} (m : Prog β BackendError α) : Prog (Logged β) BackendError α :=
  m.zoom Logged.inner fun l inner => { l with inner }

/-- What the inner backend does, which is noted when it succeeds. -/
def logging {α : Type} (note : α → Noted) (m : Prog β BackendError α) :
    Prog (Logged β) BackendError α := fun l =>
  match m l.inner with
  | (.ok a, inner) => (.ok a, ⟨inner, l.log ++ [note a]⟩)
  | (.error e, inner) => (.error e, ⟨inner, l.log⟩)

instance [KeyBackend β] : KeyBackend (Logged β) where
  importKey kind bytes := through (KeyBackend.importKey kind bytes)
  generateKey kind := through (KeyBackend.generateKey kind)
  computeKcv h := through (KeyBackend.computeKcv h)
  randomBytes n := through (KeyBackend.randomBytes n)
  ctEq l a b := KeyBackend.ctEq l.inner a b

instance [Scp03Backend β] : Scp03Backend (Logged β) where
  scp03DeriveSession enc mac mode hostCh cardCh :=
    logging (fun s => .derived (.scp03 s))
      (Scp03Backend.scp03DeriveSession enc mac mode hostCh cardCh)
  scp03CardCryptogram s hostCh cardCh := through (Scp03Backend.scp03CardCryptogram s hostCh cardCh)
  scp03HostCryptogram s hostCh cardCh := through (Scp03Backend.scp03HostCryptogram s hostCh cardCh)
  scp03PseudoCardChallenge enc mode seq aid :=
    through (Scp03Backend.scp03PseudoCardChallenge enc mode seq aid)
  scp03WrapCommand s capdu :=
    logging (fun wire => .wrapped ⟨.scp03 s, capdu, wire⟩) (Scp03Backend.scp03WrapCommand s capdu)
  scp03UnwrapResponse s rapdu := through (Scp03Backend.scp03UnwrapResponse s rapdu)
  scp03EncryptPutKeyPayload dek newKey :=
    through (Scp03Backend.scp03EncryptPutKeyPayload dek newKey)
  scp03CloseSession s l := { l with inner := Scp03Backend.scp03CloseSession s l.inner }

instance [Scp02Backend β] : Scp02Backend (Logged β) where
  scp02DeriveSession enc mac dek seq :=
    logging (fun s => .derived (.scp02 s)) (Scp02Backend.scp02DeriveSession enc mac dek seq)
  scp02CardCryptogram s hostCh cardCh := through (Scp02Backend.scp02CardCryptogram s hostCh cardCh)
  scp02HostCryptogram s hostCh cardCh := through (Scp02Backend.scp02HostCryptogram s hostCh cardCh)
  scp02WrapCommand s capdu :=
    logging (fun wire => .wrapped ⟨.scp02 s, capdu, wire⟩) (Scp02Backend.scp02WrapCommand s capdu)
  scp02UnwrapResponse s rapdu := through (Scp02Backend.scp02UnwrapResponse s rapdu)
  scp02EncryptPutKeyPayloadForSession s newKey :=
    through (Scp02Backend.scp02EncryptPutKeyPayloadForSession s newKey)
  scp02CloseSession s l := { l with inner := Scp02Backend.scp02CloseSession s l.inner }

/-- Nothing is noted. -/
def unlogged : Prog.Frame (Logged β) where
  rel l l' := l'.log = l.log
  refl _ := rfl
  trans h h' := h'.trans h

/-- What is logged is noted down, or the call has failed. -/
theorem logging_cases {α : Type} (note : α → Noted) (m : Prog β BackendError α) (l : Logged β) :
    (∃ e l', ofBackend (logging note m) l = (.error e, l') ∧ l'.log = l.log) ∨
      ∃ a l', ofBackend (logging note m) l = (.ok a, l') ∧ l'.log = l.log ++ [note a] := by
  unfold ofBackend Prog.mapErr logging
  cases m l.inner with
  | mk r inner =>
    cases r with
    | error e => exact .inl ⟨_, _, rfl, rfl⟩
    | ok a => exact .inr ⟨_, _, rfl, rfl⟩

end logged

/-! ### A handshake on the backend -/

section begins

variable {β α γ : Type}

/-- EXTERNAL AUTHENTICATE. -/
def Authenticates (plain : Capdu) : Prop := ∃ rest, plain = 0x84 :: 0x82 :: rest

/-- What a handshake notes, by how it comes out: it derives a session, and wraps
    EXTERNAL AUTHENTICATE for that session; it may fail before either. -/
inductive Begun (handle : α → SessionHandle) :
    List Noted → Except ScllError (α × Capdu) → Prop where
  | refused (e : ScllError) : Begun handle [] (.error e)
  | derived (h : SessionHandle) (e : ScllError) : Begun handle [.derived h] (.error e)
  | wrapped (a : α) (plain wire : Capdu) (authenticates : Authenticates plain) :
      Begun handle [.derived (handle a), .wrapped ⟨handle a, plain, wire⟩] (.ok (a, wire))

/-- A program that notes what a handshake does. -/
def Begins (handle : α → SessionHandle) (m : Prog (Logged β) ScllError (α × Capdu)) : Prop :=
  ∀ l, ∃ notes, (m l).2.log = l.log ++ notes ∧ Begun handle notes (m l).1

/-- A program that wraps EXTERNAL AUTHENTICATE for `h` as its last step, if it
    gets there, and has opened `h` then. -/
def WrapsLast (handle : α → SessionHandle) (h : SessionHandle)
    (m : Prog (Logged β) ScllError (α × Capdu)) : Prop :=
  ∀ l, match m l with
    | (.ok (a, wire), l') => handle a = h ∧ ∃ plain, Authenticates plain ∧
        l'.log = l.log ++ [.wrapped ⟨h, plain, wire⟩]
    | (.error _, l') => l'.log = l.log

variable {handle : α → SessionHandle} {h : SessionHandle}

theorem WrapsLast.bind {m : Prog (Logged β) ScllError γ}
    {f : γ → Prog (Logged β) ScllError (α × Capdu)} (hm : m.Keeps unlogged)
    (hf : ∀ c l l', m l = (.ok c, l') → WrapsLast handle h (f c)) :
    WrapsLast handle h (m >>= f) := by
  intro l
  have hl := hm l
  rw [Prog.bind_run]
  cases hrun : m l with
  | mk r l₁ =>
    have hl₁ : l₁.log = l.log := by
      rw [hrun] at hl
      exact hl
    cases r with
    | error e => exact hl₁
    | ok c =>
      have hlast := hf c l l₁ hrun l₁
      rw [hl₁] at hlast
      exact hlast

theorem WrapsLast.wrap {plain : Capdu} {m : Prog β BackendError Capdu} {a : α}
    (ha : handle a = h) (hplain : Authenticates plain) :
    WrapsLast handle h (do
      let wire ← ofBackend (logging (fun wire => .wrapped ⟨h, plain, wire⟩) m)
      pure (a, wire)) := by
  intro l
  rw [Prog.bind_run]
  rcases logging_cases (fun wire => Noted.wrapped ⟨h, plain, wire⟩) m l with
    ⟨e, l', hrun, hlog⟩ | ⟨wire, l', hrun, hlog⟩
  · rw [hrun]
    exact hlog
  · rw [hrun]
    exact ⟨ha, plain, hplain, hlog⟩

theorem Begins.fail (e : ScllError) :
    Begins handle (Prog.fail e : Prog (Logged β) ScllError (α × Capdu)) :=
  fun _ => ⟨[], (List.append_nil _).symm, .refused e⟩

theorem Begins.lift_bind {x : Except ScllError γ}
    {f : γ → Prog (Logged β) ScllError (α × Capdu)} (hf : ∀ c, Begins handle (f c)) :
    Begins handle (Prog.lift x >>= f) := by
  intro l
  rw [Prog.bind_run]
  cases x with
  | error e => exact ⟨[], (List.append_nil _).symm, .refused e⟩
  | ok c => exact hf c l

/-- A derivation, and a wrap for what it derived. -/
theorem Begins.derive {m : Prog β BackendError γ} {note : γ → SessionHandle}
    {f : γ → Prog (Logged β) ScllError (α × Capdu)}
    (hf : ∀ c, WrapsLast handle (note c) (f c)) :
    Begins handle (ofBackend (logging (fun c => .derived (note c)) m) >>= f) := by
  intro l
  rw [Prog.bind_run]
  -- a derivation that fails is not noted
  rcases logging_cases (fun c => Noted.derived (note c)) m l with
    ⟨e, l₁, hrun, hlog⟩ | ⟨c, l₁, hrun, hlog⟩
  · rw [hrun]
    exact ⟨[], hlog.trans (List.append_nil _).symm, .refused e⟩
  · rw [hrun]
    dsimp only
    have hlast := hf c l₁
    cases hrest : f c l₁ with
    | mk r l₂ =>
      rw [hrest] at hlast
      cases r with
      | error e => exact ⟨_, hlast.trans hlog, .derived (note c) e⟩
      | ok p =>
        obtain ⟨a, wire⟩ := p
        obtain ⟨ha, plain, hplain, hwrapped⟩ := hlast
        rw [hlog, List.append_assoc] at hwrapped
        refine ⟨_, hwrapped, ?_⟩
        rw [← ha]
        exact .wrapped a plain wire hplain

end begins

/-! ### What is said -/

/-- What is sent in clear, and what the backend notes, in the order of both. -/
inductive Said where
  | clear (capdu : Capdu)
  | noted (n : Noted)

/-- The octets that go over the wire. -/
def Said.wire? : Said → Option Capdu
  | clear capdu => some capdu
  | noted (.derived _) => none
  | noted (.wrapped x) => some x.wire

def Said.noted? : Said → Option Noted
  | clear _ => none
  | noted n => some n

/-- A command in clear of some kind. -/
def InClear (C : Capdu → Prop) : Said → Prop
  | .clear capdu => C capdu
  | .noted _ => False

/-- SELECT. -/
def Selects (capdu : Capdu) : Prop := ∃ rest, capdu = 0x00 :: 0xA4 :: rest

/-- INITIALIZE UPDATE. -/
def InitializesUpdate (capdu : Capdu) : Prop := ∃ rest, capdu = 0x80 :: 0x50 :: rest

/-- What an open sends in clear. -/
def Opening (capdu : Capdu) : Prop := Selects capdu ∨ InitializesUpdate capdu

variable {τ β : Type}

/-- Between the two worlds this was said: what goes over the wire of it is what
    the tap has more, and what is noted is what the log has more. -/
structure Says (said : List Said) (w w' : World (Tapped τ) (Logged β)) : Prop where
  wire : w'.transport.wire = w.transport.wire ++ said.filterMap Said.wire?
  log : w'.backend.log = w.backend.log ++ said.filterMap Said.noted?

theorem Says.nothing {w w' : World (Tapped τ) (Logged β)}
    (hwire : w'.transport.wire = w.transport.wire) (hlog : w'.backend.log = w.backend.log) :
    Says [] w w' where
  wire := hwire.trans (List.append_nil _).symm
  log := hlog.trans (List.append_nil _).symm

theorem Says.append {said said' : List Said} {w w₁ w' : World (Tapped τ) (Logged β)}
    (h : Says said w w₁) (h' : Says said' w₁ w') : Says (said ++ said') w w' where
  wire := by rw [h'.wire, h.wire, List.filterMap_append, List.append_assoc]
  log := by rw [h'.log, h.log, List.filterMap_append, List.append_assoc]

/-- Only what `A` allows is said. -/
def only (A : Said → Prop) : Prog.Frame (World (Tapped τ) (Logged β)) where
  rel w w' := ∃ said, Says said w w' ∧ ∀ x ∈ said, A x
  refl w := ⟨[], .nothing rfl rfl, by simp⟩
  trans := by
    intro w₁ w₂ w₃ h h'
    obtain ⟨said, hsaid, hA⟩ := h
    obtain ⟨said', hsaid', hA'⟩ := h'
    refine ⟨said ++ said', hsaid.append hsaid', ?_⟩
    intro x hx
    rcases List.mem_append.mp hx with hx | hx
    · exact hA x hx
    · exact hA' x hx

variable {A B : Said → Prop}

section said

variable [Transport τ]

end said

/-! ### The handshake -/

section handshake

/-- What an open says: commands in clear, then the derivation of a session, then
    EXTERNAL AUTHENTICATE wrapped for that session. It may break off before
    either; when it succeeds, that session is the one opened. -/
inductive OfOpen : List Said → Option ScpSession → Prop where
  | refused (clear : List Said) (opening : ∀ x ∈ clear, InClear Opening x) : OfOpen clear none
  | derived (clear : List Said) (opening : ∀ x ∈ clear, InClear Opening x) (h : SessionHandle) :
      OfOpen (clear ++ [.noted (.derived h)]) none
  | authenticated (clear : List Said) (opening : ∀ x ∈ clear, InClear Opening x)
      (h : SessionHandle) (plain wire : Capdu) (authenticates : Authenticates plain)
      (opened : Option ScpSession) (same : ∀ s ∈ opened, SlotLeak.handleOf s = h) :
      OfOpen (clear ++ [.noted (.derived h), .noted (.wrapped ⟨h, plain, wire⟩)]) opened

/-- More in clear before an open. -/
theorem OfOpen.append {before said : List Said} {opened : Option ScpSession}
    (hbefore : ∀ x ∈ before, InClear Opening x) (h : OfOpen said opened) :
    OfOpen (before ++ said) opened := by
  have hclear : ∀ {clear : List Said}, (∀ x ∈ clear, InClear Opening x) →
      ∀ x ∈ before ++ clear, InClear Opening x := by
    intro clear hopening x hx
    rcases List.mem_append.mp hx with hx | hx
    · exact hbefore x hx
    · exact hopening x hx
  cases h with
  | refused _ opening => exact .refused _ (hclear opening)
  | derived _ opening h =>
    rw [← List.append_assoc]
    exact .derived _ (hclear opening) h
  | authenticated _ opening h plain wire authenticates opened same =>
    rw [← List.append_assoc]
    exact .authenticated _ (hclear opening) h plain wire authenticates opened same

variable {γ δ : Type}

/-- A program that says what an open says, and opens what it returns. -/
def Opens (sessionOf : γ → ScpSession) (m : Prog (World (Tapped τ) (Logged β)) ScllError γ) :
    Prop :=
  ∀ w, ∃ said, Says said w (m w).2 ∧ OfOpen said ((m w).1.toOption.map sessionOf)

/-- It may say something in clear first. -/
theorem Opens.bind {sessionOf : γ → ScpSession}
    {m : Prog (World (Tapped τ) (Logged β)) ScllError δ}
    {f : δ → Prog (World (Tapped τ) (Logged β)) ScllError γ}
    (hm : m.Keeps (only (InClear Opening))) (hf : ∀ a, Opens sessionOf (f a)) :
    Opens sessionOf (m >>= f) := by
  intro w
  obtain ⟨before, hsays, hclear⟩ := hm w
  rw [Prog.bind_run]
  cases hrun : m w with
  | mk r w₁ =>
    rw [hrun] at hsays
    cases r with
    | error e => exact ⟨before, hsays, .refused _ hclear⟩
    | ok a =>
      obtain ⟨said, hsaid, hopen⟩ := hf a w₁
      exact ⟨before ++ said, hsays.append hsaid, hopen.append hclear⟩

/-- What it returns may be reported in another way. -/
theorem Opens.map {sessionOf : γ → ScpSession} {sessionOf' : δ → ScpSession}
    {m : Prog (World (Tapped τ) (Logged β)) ScllError γ} {f : γ → δ} (h : Opens sessionOf m)
    (hf : ∀ a, sessionOf' (f a) = sessionOf a) :
    Opens sessionOf' (m >>= fun a => pure (f a)) := by
  intro w
  obtain ⟨said, hsays, hopen⟩ := h w
  rw [Prog.bind_run]
  cases hrun : m w with
  | mk r w₁ =>
    rw [hrun] at hsays hopen
    cases r with
    | error e => exact ⟨said, hsays, hopen⟩
    | ok a =>
      refine ⟨said, hsays, ?_⟩
      show OfOpen said (some (sessionOf' (f a)))
      rw [hf]
      exact hopen

variable [Transport τ]

variable [KeyBackend β]

variable [Scp03Backend β] [Scp02Backend β]

end handshake

/-! ### Through a channel -/

section session

variable [Transport τ] [KeyBackend β] [Scp03Backend β] [Scp02Backend β]

end session

/-! ### The manager -/

section manager

variable {δ : Type}

variable [Transport τ]

variable [KeyBackend β] [Scp03Backend β] [Scp02Backend β]

variable (I : Inflater δ)

end manager

end Wiretap

end Scll
