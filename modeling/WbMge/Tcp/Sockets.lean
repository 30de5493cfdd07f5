import WbMge.ToMathlib.Handles
import WbMge.ToMathlib.Machine

/-!
# The sockets of a TCP descriptor

`tcp_client.c` and `tcp_server.c` keep the sockets of a connection in a `tcp_desc_t` that several
tasks use. lwIP gives the number of a closed socket to the next one, of whatever task of the
firmware, so that a `close()` or `send()` too late is one on somebody else's socket. Here is what
the tasks of a descriptor do with sockets and with the descriptor itself, as entries of a log in
which a socket is told from the others with the same number.

`Accounts` relates a log to the places where the tasks keep their sockets, and `Freed` to the point
where the descriptor is freed. Both are kept by each of the things a task can do.
-/

namespace WbMge.Tcp

open Handles

/-- What happens to sockets and to the descriptor. -/
inductive Obs where
  /-- `socket()` makes a socket. -/
  | socket (x : Handle)
  /-- `accept()` makes a socket. -/
  | accept (x : Handle)
  /-- `close()`, and what has the number. -/
  | close (y : Option Handle)
  /-- `send()`, and what has the number. -/
  | send (y : Option Handle)
  | touch
  | free
deriving Repr, DecidableEq

namespace Obs

def created? : Obs → Option Handle
  | .socket x | .accept x => some x
  | .close _ | .send _ | .touch | .free => none

def closed? : Obs → Option Handle
  | .close y => y
  | .socket _ | .accept _ | .send _ | .touch | .free => none

def Plain : Obs → Prop
  | .send _ | .touch | .free => True
  | .socket _ | .accept _ | .close _ => False

end Obs

/-- The sockets that were made. -/
def created (log : List Obs) : List Handle := log.filterMap Obs.created?

/-- The sockets that were closed. -/
def closed (log : List Obs) : List Handle := log.filterMap Obs.closed?

lemma created_concat (log : List Obs) (o : Obs) :
    created (log ++ [o]) = created log ++ o.created?.toList := by
  cases ho : o.created? <;> simp [created, ho]

lemma closed_concat (log : List Obs) (o : Obs) :
    closed (log ++ [o]) = closed log ++ o.closed?.toList := by
  cases ho : o.closed? <;> simp [closed, ho]

def IsOpen (log : List Obs) (y : Option Handle) : Prop :=
  ∃ x ∈ created log, y = some x ∧ x ∉ closed log

/-- What is closed is an open socket of our own. -/
def ClosesOpen (earlier : List Obs) (o : Obs) : Prop := ∀ y, o = .close y → IsOpen earlier y

/-- What is sent to is an open socket of our own. -/
def SendsOpen (earlier : List Obs) (o : Obs) : Prop := ∀ y, o = .send y → IsOpen earlier y

/-- The descriptor is not used after it was freed. -/
def TouchesLive (earlier : List Obs) (o : Obs) : Prop := o = .touch → Obs.free ∉ earlier

/-- The places `h` have the sockets of the descriptor that are not closed. -/
structure Accounts {ι : Type*} (log : List Obs) (w : Estate) (h : Holding ι Handle) : Prop where
  ledger : Ledger w (closed log) h
  created_eq : created log = w.ours
  closes : Entries ClosesOpen log

/-- The descriptor is not touched after it was freed, which has happened only if `returned`. -/
structure Freed (log : List Obs) (returned : Prop) : Prop where
  touches : Entries TouchesLive log
  freed : .free ∈ log → returned

namespace Freed

variable {log : List Obs} {returned returned' : Prop} {o : Obs}

lemma init : Freed [] returned := ⟨.nil, by simp⟩

lemma touch (h : Freed log returned) (hr : ¬ returned) : Freed (log ++ [.touch]) returned :=
  ⟨h.touches.concat fun _ hfree => hr (h.freed hfree), by simpa using h.freed⟩

lemma free (h : Freed log returned) (hr : returned') : Freed (log ++ [.free]) returned' :=
  ⟨h.touches.concat (by rintro ⟨⟩), fun _ => hr⟩

lemma concat (h : Freed log returned) (htouch : o ≠ .touch) (hfree : o ≠ .free) :
    Freed (log ++ [o]) returned := by
  refine ⟨h.touches.concat fun ho => absurd ho htouch, fun hmem => h.freed ?_⟩
  simpa [hfree.symm] using hmem

lemma imp (h : Freed log returned) (hr : returned → returned') : Freed log returned' :=
  ⟨h.touches, fun hfree => hr (h.freed hfree)⟩

end Freed

namespace Accounts

variable {ι : Type*} {log : List Obs} {w w' : Estate} {h : Holding ι Handle} {i j : ι} {x : Handle}
  {n : Nat} {o : Obs}

lemma init : Accounts [] Estate.empty (fun _ : ι => none) :=
  ⟨.init, rfl, .nil⟩

lemma isOpen (ha : Accounts log w h) (hi : h i = some x) : IsOpen log (w.pool.at? x.num) := by
  refine ⟨x, ?_, Pool.at?_num (ha.ledger.owned.mem hi), ha.ledger.notMem_closed hi⟩
  rw [ha.created_eq]
  exact ha.ledger.ours hi

lemma count_closed_eq_one (ha : Accounts log w h) (hfree : ∀ i, h i = none)
    (hx : x ∈ created log) : (closed log).count x = 1 :=
  ha.ledger.count_eq_one hfree (ha.created_eq ▸ hx)

lemma plain (ha : Accounts log w h) (ho : o.Plain) : Accounts (log ++ [o]) w h := by
  have hcreated : o.created? = none := by cases o <;> first | rfl | exact ho.elim
  have hclosed : o.closed? = none := by cases o <;> first | rfl | exact ho.elim
  refine ⟨?_, ?_, ha.closes.concat ?_⟩
  · simpa [closed_concat, hclosed] using ha.ledger
  · simpa [created_concat, hcreated] using ha.created_eq
  · rintro y rfl
    exact ho.elim

lemma others {d : Estate.Deed} (ha : Accounts log w h) (hd : w.others d = some w') :
    Accounts log w' h :=
  ⟨(ha.ledger.others hd).1, ha.created_eq.trans (ha.ledger.others hd).2.symm, ha.closes⟩

variable [DecidableEq ι]

lemma keep (ha : Accounts log w h) {y : Option Handle} (hi : h i = y) :
    Accounts log w (Function.update h i y) := by
  rwa [Function.update_eq_self_iff.2 hi.symm]

lemma «open» (ha : Accounts log w h) (hn : w.pool.Fresh n) (hi : h i = none)
    (ho : o.created? = some (w.pool.newest n)) :
    Accounts (log ++ [o]) (w.open n hn) (Function.update h i (some (w.pool.newest n))) := by
  have hclosed : o.closed? = none := by cases o <;> first | rfl | cases ho
  refine ⟨?_, ?_, ha.closes.concat ?_⟩
  · simpa [closed_concat, hclosed] using ha.ledger.open hn hi
  · simpa [created_concat, ho, Estate.open] using ha.created_eq
  · rintro y rfl
    cases ho

lemma close (ha : Accounts log w h) (hi : h i = some x) :
    Accounts (log ++ [.close (w.pool.at? x.num)]) (w.close x.num) (Function.update h i none) := by
  refine ⟨?_, ?_, ha.closes.concat ?_⟩
  · simpa [closed_concat, Obs.closed?, Pool.at?_num (ha.ledger.owned.mem hi)] using
      ha.ledger.close hi
  · simpa [created_concat, Obs.created?, Estate.close] using ha.created_eq
  · rintro y ⟨⟩
    exact ha.isOpen hi

lemma move (ha : Accounts log w h) (hi : h i = some x) (hj : h j = none) :
    Accounts log w (Function.update (Function.update h i none) j (some x)) :=
  ⟨ha.ledger.move hi hj, ha.created_eq, ha.closes⟩

end Accounts

end WbMge.Tcp
