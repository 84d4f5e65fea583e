import AssetSync.Cycle.Event
import AssetSync.Store.Service

namespace AssetSync

variable {σ τ : Type}

inductive TrackingService.Answers (service : TrackingService τ) : Event → τ → τ → Prop
  | loadCheckpoint {key answer t t'} (h : service.loadCheckpoint key t = (answer, t')) :
    Answers service (.loadCheckpoint key answer) t t'
  | loadActive {key answer t t'} (h : service.loadActive key t = (answer, t')) :
    Answers service (.loadActive key answer) t t'
  | savePayload {key data answer t t'} (h : service.savePayload key data t = (answer, t')) :
    Answers service (.savePayload key data answer) t t'
  | saveStates {key assets answer t t'} (h : service.saveStates key assets t = (answer, t')) :
    Answers service (.saveStates key assets answer) t t'
  | saveCursor {key label cursor answer t t'}
      (h : service.saveCursor key label cursor t = (answer, t')) :
    Answers service (.saveCursor key label cursor answer) t t'
  | recordCycle {key record answer t t'} (h : service.recordCycle key record t = (answer, t')) :
    Answers service (.recordCycle key record answer) t t'

inductive Source.Answers (source : Source σ) : Event → σ → σ → Prop
  | initCursor {answer s s'} (h : source.initCursor s = (answer, s')) :
    Answers source (.initCursor answer) s s'
  | discover {cursor size answer s s'} (h : source.firstPage? cursor size s = (answer, s')) :
    Answers source (.discover cursor size answer) s s'
  | fetch {request answer s s'} (h : source.fetch request s = (answer, s')) :
    Answers source (.fetch request answer) s s'

namespace Event

inductive Performed (source : Source σ) (service : TrackingService τ) :
    Event → σ × τ → σ × τ → Prop
  | tracked {call s t t'} (h : service.Answers call t t') :
    Performed source service call (s, t) (s, t')
  | asked {call s s' t} (h : source.Answers call s s') :
    Performed source service call (s, t) (s', t)
  | metric {m s t} : Performed source service (.metric m) (s, t) (s, t)

def key? : Event → Option SyncerKey
  | loadCheckpoint key _ | loadActive key _ | savePayload key _ _ | saveStates key _ _
  | saveCursor key _ _ _ | recordCycle key _ _ => some key
  | _ => none

def payload? : Event → Option Json
  | savePayload _ data _ => some data
  | _ => none

def fetched? : Event → Option Json
  | fetch _ (.answer batch) => if batch.hasData then batch.data else none
  | _ => none

def record? : Event → Option CycleRecord
  | recordCycle _ record _ => some record
  | _ => none

def Failed : Event → Prop
  | loadCheckpoint _ (.error _) | initCursor (.error _) | loadActive _ (.error _)
  | savePayload _ _ (.error _) | saveStates _ _ (.error _) | saveCursor _ _ _ (.error _) => True
  | _ => False

def Closing : Event → Prop
  | recordCycle _ _ _ | metric _ => True
  | _ => False

end Event

end AssetSync
