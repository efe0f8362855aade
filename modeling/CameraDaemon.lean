import CameraDaemon.Lib.Run
import CameraDaemon.Lib.ByteOrder
import CameraDaemon.Lib.Memory
import CameraDaemon.Lib.CString
import CameraDaemon.Lib.Rfc4648
import CameraDaemon.Srtp.Rdbx
import CameraDaemon.Srtp.Protect
import CameraDaemon.Lib.Sweep
import CameraDaemon.Lib.SlidingWindow
import CameraDaemon.Srtp.Bitvector
import CameraDaemon.Srtp.Replay
import CameraDaemon.Lib.Rijndael
import CameraDaemon.Srtp.AesTables
import CameraDaemon.Srtp.Aes
import CameraDaemon.Lib.Keystream
import CameraDaemon.Srtp.AesIcm
import CameraDaemon.Srtp.SessionKeys
import CameraDaemon.Srtp.StreamCipher
import CameraDaemon.Srtp.Unprotect
import CameraDaemon.Base64
import CameraDaemon.Lib.FdTable
import CameraDaemon.Lib.Cutting
import CameraDaemon.Os
import CameraDaemon.RtpWorker
import CameraDaemon.Keys
import CameraDaemon.Session
import CameraDaemon.Headers
import CameraDaemon.Packets
import CameraDaemon.Srtp.RoundTrip
import CameraDaemon.SessionCipher
import CameraDaemon.Channel
import CameraDaemon.Race
import CameraDaemon.Http.Parser
import CameraDaemon.Http.Order
import CameraDaemon.Http.Messages
import CameraDaemon.Http.Handlers
import CameraDaemon.Http.Casts
import CameraDaemon.Http.Splitting
import CameraDaemon.Http.Bodies
import CameraDaemon.Http.Dispatch
import CameraDaemon.Http.Residue
import CameraDaemon.Http.LastUrl
import CameraDaemon.Http.SelectLoop
import CameraDaemon.VideoEncoder
import CameraDaemon.LiveStream
import CameraDaemon.Interference
import CameraDaemon.LiveClient
import CameraDaemon.Lib.Sync
import CameraDaemon.Snapshot.Callback
import CameraDaemon.Snapshot.Locking
import CameraDaemon.Snapshot.Frames
import CameraDaemon.Lib.Custody
import CameraDaemon.Buffers
import CameraDaemon.Json.Config
