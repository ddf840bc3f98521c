import VeteraBridge.Lib.EventRun
import VeteraBridge.Lib.KeyedSlots
import VeteraBridge.Lib.OnesComplement
import VeteraBridge.Lib.ByteWords
import VeteraBridge.Proxy.Packet
import VeteraBridge.Proxy.Checksum
import VeteraBridge.Proxy.Settings
import VeteraBridge.Proxy.FlowTable
import VeteraBridge.Proxy.Redirect
import VeteraBridge.Proxy.Redirector
import VeteraBridge.Proxy.ReplySource
import VeteraBridge.Proxy.StickyRedirect
import VeteraBridge.Proxy.Availability
import VeteraBridge.Lib.CopyBuffer
import VeteraBridge.Proxy.Request
import VeteraBridge.Proxy.Session
import VeteraBridge.Lib.Ownership
import VeteraBridge.Proxy.SessionInvariant
import VeteraBridge.Proxy.RelayTask
import VeteraBridge.Proxy.RelayInvariant
import VeteraBridge.Lib.CopyStream
import VeteraBridge.Proxy.SessionStream
import VeteraBridge.Proxy.SessionCopy
import VeteraBridge.Proxy.RequestBounds
import VeteraBridge.Proxy.HeadSplit
import VeteraBridge.Wifi.System
import VeteraBridge.Wifi.OwedEvents
import VeteraBridge.Wifi.LinkLoss
import VeteraBridge.Wifi.MidCycle
import VeteraBridge.Wifi.SoftReset
import VeteraBridge.Gateway.Tasks
import VeteraBridge.Gateway.Nat
import VeteraBridge.Gateway.BridgeState
import VeteraBridge.Gateway.DeferredSet
import VeteraBridge.Gateway.DeviceName
import VeteraBridge.Gateway.DebugLog
import VeteraBridge.Gateway.Visibility
import VeteraBridge.Link.Session
import VeteraBridge.Link.AutoSecurity
import VeteraBridge.Link.PhoneName
import VeteraBridge.Link.Channels
import VeteraBridge.Link.Pcb
import VeteraBridge.Link.Teardown
import VeteraBridge.Link.Transmit
import VeteraBridge.Link.Wakeups
import VeteraBridge.Link.Handshake
import VeteraBridge.Link.HandshakeSplit
import VeteraBridge.Link.Registration
import VeteraBridge.Proxy.Admission
import VeteraBridge.Proxy.SessionEnds
import VeteraBridge.Proxy.FlowOwnership
import VeteraBridge.Proxy.Switching
import VeteraBridge.Bootstrap.Machine
import VeteraBridge.Bootstrap.LiveSession
import VeteraBridge.Bootstrap.OncePerAddress
import VeteraBridge.Lib.Codec
import VeteraBridge.Lib.DnsMessage
import VeteraBridge.Dns.Reply
import VeteraBridge.Lib.SlotRing
import VeteraBridge.Lib.WrappingClock
import VeteraBridge.Dns.Cache
import VeteraBridge.Dns.CacheHits
import VeteraBridge.Dns.CacheAge
import VeteraBridge.Dns.QueryDesc
import VeteraBridge.Dns.Server
import VeteraBridge.Dns.Forward
import VeteraBridge.Dns.Restart
import VeteraBridge.Lib.DeferredApply
import VeteraBridge.Lib.CrashLogic
import VeteraBridge.Bookmarks.Text
import VeteraBridge.Lib.Cleaning
import VeteraBridge.Bookmarks.Address
import VeteraBridge.Bookmarks.BareHost
import VeteraBridge.Bookmarks.Store
import VeteraBridge.Bookmarks.Refinement
import VeteraBridge.Bookmarks.Crash
import VeteraBridge.Web.Page
import VeteraBridge.Web.PageSize
import VeteraBridge.Lib.ClippedBuffer
import VeteraBridge.Web.PageBuffer
import VeteraBridge.Lib.SymbolCode
import VeteraBridge.Web.Escape
import VeteraBridge.Lib.FormEncoding
import VeteraBridge.Web.Form
import VeteraBridge.Web.FormBounds
import VeteraBridge.Lib.Chunks
import VeteraBridge.Web.RecvBody
import VeteraBridge.Web.FormStored
import VeteraBridge.Web.FormProxy
import VeteraBridge.Web.SavedAgain
import VeteraBridge.Wifi.StaConfig
import VeteraBridge.Lib.CountedSlots
import VeteraBridge.Wifi.SavedList
import VeteraBridge.Lib.StableInsertion
import VeteraBridge.Wifi.Selection
import VeteraBridge.Lib.NestedLoop
import VeteraBridge.Wifi.ConnectCycle
import VeteraBridge.Lib.CrlfLines
import VeteraBridge.Proxy.RewriteLines
import VeteraBridge.Proxy.RewriteSpec
import VeteraBridge.Proxy.FoldedHeaders
import VeteraBridge.Proxy.HeadRoom
import VeteraBridge.Proxy.ClientHello
import VeteraBridge.Proxy.SniBounds
import VeteraBridge.Proxy.WholeName
import VeteraBridge.Proxy.SingleHead
import VeteraBridge.Lib.FirstMaximum
import VeteraBridge.Proxy.SlotChoice
import VeteraBridge.Proxy.SlotTimes
import VeteraBridge.Proxy.SessionStages
import VeteraBridge.Proxy.Deadlines
import VeteraBridge.Lib.Framing
import VeteraBridge.Hci.Transport
import VeteraBridge.Hci.InOrder
import VeteraBridge.Proxy.SelectSets
import VeteraBridge.Proxy.SessionProgress
import VeteraBridge.Link.SecurityMode
import VeteraBridge.Lib.Markup
import VeteraBridge.Web.SubmittedForm
import VeteraBridge.Web.EditForm
import VeteraBridge.Web.SettingsPages
import VeteraBridge.Web.ProxyPage
import VeteraBridge.Lib.UncheckedWrites
import VeteraBridge.Web.ProxyFaults
import VeteraBridge.Web.PageLinks
import VeteraBridge.Web.WifiPage
import VeteraBridge.Dns.Answered
import VeteraBridge.Web.Portal
